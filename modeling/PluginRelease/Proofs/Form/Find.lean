import PluginRelease.Form.Basic
import PluginRelease.Proofs.Failure
import PluginRelease.Proofs.Html.Order
import PluginRelease.Proofs.Text.Blank
import PluginRelease.Proofs.Text.Case

/-!
Finding a form. The first form in document order that has the name, and the method if one is asked
for, decides alone: whether the search fails, and what form it gives.
-/
namespace PluginRelease.Form
open Html Text
variable {nodes others : List Node} {page : Url} {name : String} {method : Option String} {n : Node}
  {f : Form} {e : FormFailure}

/-! ## What is looked for -/

structure IsAskedFor (name : String) (method : Option String) (n : Node) : Prop where
  is_form : n.tag? = some "form"
  called : n.attribute? "name" = some name
  sends : ∀ m, method = some m → SameButCase m ((n.attribute? "method").getD "GET")

theorem upper_eq_iff {a b : String} : upper a = upper b ↔ SameButCase a b := by
  rw [sameButCase_iff, upper, upper, String.ofList_inj]

theorem isCalled_iff : isCalled name method n = true ↔ IsAskedFor name method n := by
  have hmethod (m : String) :
      upper m = methodOf n ↔ SameButCase m ((n.attribute? "method").getD "GET") := by
    rw [methodOf, upper_eq_iff]
  constructor
  · intro h
    simp only [isCalled, Bool.and_eq_true, decide_eq_true_eq] at h
    obtain ⟨⟨hform, hname⟩, hall⟩ := h
    refine ⟨hform, hname, ?_⟩
    rintro m rfl
    exact (hmethod m).mp (by simpa using hall)
  · rintro ⟨hform, hname, hsends⟩
    cases method with
    | none => simp [isCalled, hform, hname]
    | some m => simp [isCalled, hform, hname, (hmethod m).mpr (hsends m rfl)]

/-- The first form that is asked for, in document order, with its address. -/
abbrev IsFirstForm (nodes : List Node) (name : String) (method : Option String) (a : List Nat)
    (n : Node) : Prop :=
  Node.IsFirst nodes (IsAskedFor name method) a n

theorem find?_isCalled_eq_some_iff : (Node.forest nodes).find? (isCalled name method) = some n ↔
    ∃ a, IsFirstForm nodes name method a n := by
  rw [Node.find?_forest_eq_some_iff]
  simp only [isCalled_iff]

theorem find?_isCalled_eq_none_iff : (Node.forest nodes).find? (isCalled name method) = none ↔
    ∀ a n, Node.at? nodes a = some n → ¬ IsAskedFor name method n := by
  rw [Node.find?_forest_eq_none_iff]
  simp only [← isCalled_iff, Bool.not_eq_true]

/-! ## Where it leads -/

/-- The reference that a form names, unless it is blank. -/
def namedAction? (n : Node) : Option String :=
  ((n.attribute? "action").filter fun a => !isBlankText a.toList).map fun a =>
    String.ofList (trim a.toList)

/-- A form leads to the page it stands on, or to where the reference leads from there. -/
def LeadsTo (page : Url) (n : Node) (u : Url) : Prop :=
  match namedAction? n with
  | none => u = page
  | some action => page.join action = .ok u

theorem actionOf_of_none (h : namedAction? n = none) (page : Url) : actionOf page n = .ok page := by
  unfold actionOf
  cases hattribute : n.attribute? "action" with
  | none => rfl
  | some a =>
    have hblank : isBlankText a.toList = true := by simpa [namedAction?, hattribute] using h
    rw [Option.map_some, trim_eq_nil_of_isBlankText hblank]

theorem actionOf_of_some {action : String} (h : namedAction? n = some action) (page : Url) :
    actionOf page n = match page.join action with
      | .ok u => .ok u
      | .error fault => .error (.badAction action fault.message) := by
  obtain ⟨a, ha, rfl⟩ := Option.map_eq_some_iff.mp h
  obtain ⟨hattribute, hshown⟩ := Option.filter_eq_some_iff.mp ha
  have hne : trim a.toList ≠ [] := trim_ne_nil_iff.mpr (by simpa using hshown)
  obtain ⟨c, r, hcr⟩ := List.exists_cons_of_ne_nil hne
  have hnamed : (n.attribute? "action").map (fun a => trim a.toList) = some (c :: r) := by
    rw [hattribute, Option.map_some, hcr]
  rw [hcr]
  cases hjoin : page.join (String.ofList (c :: r)) with
  | ok u => simp only [actionOf, hnamed, hjoin]
  | error fault => simp only [actionOf, hnamed, hjoin]

theorem actionOf_eq_ok_iff {u : Url} : actionOf page n = .ok u ↔ LeadsTo page n u := by
  unfold LeadsTo
  cases h : namedAction? n with
  | none => rw [actionOf_of_none h, Except.ok.injEq, eq_comm]
  | some action =>
    rw [actionOf_of_some h]
    cases hjoin : page.join action with
    | ok v => simp [hjoin]
    | error fault => simp [hjoin]

theorem actionOf_eq_error_iff : actionOf page n = .error e ↔ ∃ action fault,
    namedAction? n = some action ∧ page.join action = .error fault ∧
      e = .badAction action fault.message := by
  cases h : namedAction? n with
  | none => simp [actionOf_of_none h]
  | some action =>
    rw [actionOf_of_some h]
    cases hjoin : page.join action with
    | ok v => simp [hjoin]
    | error fault => simp [hjoin, eq_comm]

/-! ## What is found -/

theorem findIn_of_first {a : List Nat} (h : IsFirstForm nodes name method a n) :
    findIn nodes page name method = ofNode page name n := by
  rw [findIn, find?_isCalled_eq_some_iff.mpr ⟨a, h⟩]

theorem findIn_of_none (h : ∀ a n, Node.at? nodes a = some n → ¬ IsAskedFor name method n) :
    findIn nodes page name method = .error (.formNotFound name page.render) := by
  rw [findIn, find?_isCalled_eq_none_iff.mpr h]

/-- A page has a first form that is asked for, or none at all. -/
theorem exists_first_or_none (nodes : List Node) (name : String) (method : Option String) :
    (∃ a n, IsFirstForm nodes name method a n) ∨
      ∀ a n, Node.at? nodes a = some n → ¬ IsAskedFor name method n := by
  cases h : (Node.forest nodes).find? (isCalled name method) with
  | none => exact .inr (find?_isCalled_eq_none_iff.mp h)
  | some n =>
    obtain ⟨a, ha⟩ := find?_isCalled_eq_some_iff.mp h
    exact .inl ⟨a, n, ha⟩

theorem ofNode_eq_ok_iff : ofNode page name n = .ok f ↔
    f.name = name ∧ f.method = upper ((n.attribute? "method").getD "GET") ∧
      LeadsTo page n f.action ∧ f.controls = controlsOf n := by
  rw [← actionOf_eq_ok_iff]
  unfold ofNode
  constructor
  · intro h
    obtain ⟨u, hu, hf⟩ := exists_of_bind h
    obtain rfl := Except.ok.inj hf
    exact ⟨rfl, rfl, hu, rfl⟩
  · rintro ⟨rfl, hmethod, haction, hcontrols⟩
    rw [haction, methodOf, ← hmethod, ← hcontrols]
    rfl

theorem ofNode_eq_error_iff : ofNode page name n = .error e ↔ ∃ action fault,
    namedAction? n = some action ∧ page.join action = .error fault ∧
      e = .badAction action fault.message := by
  rw [← actionOf_eq_error_iff]
  unfold ofNode
  constructor
  · intro h
    rcases error_of_bind h with haction | ⟨u, -, hf⟩
    · exact haction
    · cases hf
  · intro h
    rw [h]
    rfl

/-- No form is found exactly if none on the page is asked for; the action is bad exactly if the
first one that is asked for has one that is not blank and does not resolve; and in all other cases
that first form is found, with its own name, method and controls and the address it leads to. So two
pages with the same first form, each wherever it stands, give the same. -/
theorem find_takes_first_form (nodes : List Node) (page : Url) (name : String)
    (method : Option String) :
    ((∃ called url, findIn nodes page name method = .error (.formNotFound called url)) ↔
      ∀ a n, Node.at? nodes a = some n → ¬ IsAskedFor name method n) ∧
    ((∃ action reason, findIn nodes page name method = .error (.badAction action reason)) ↔
      ∃ a n action fault, IsFirstForm nodes name method a n ∧ namedAction? n = some action ∧
        page.join action = .error fault) ∧
    (∀ f, findIn nodes page name method = .ok f ↔ ∃ a n, IsFirstForm nodes name method a n ∧
      f.name = name ∧ f.method = upper ((n.attribute? "method").getD "GET") ∧
      LeadsTo page n f.action ∧ f.controls = controlsOf n) ∧
    (∀ e, findIn nodes page name method = .error e → e = .formNotFound name page.render ∨
      ∃ action fault, page.join action = .error fault ∧ e = .badAction action fault.message) ∧
    (∀ others a b n, IsFirstForm nodes name method a n → IsFirstForm others name method b n →
      findIn others page name method = findIn nodes page name method) ∧
    ∀ text, Html.parse text = nodes →
      find text page name method = findIn nodes page name method := by
  have hsame : ∀ others a b n, IsFirstForm nodes name method a n →
      IsFirstForm others name method b n →
      findIn others page name method = findIn nodes page name method := by
    intro others a b n ha hb
    rw [findIn_of_first ha, findIn_of_first hb]
  have htext : ∀ text, Html.parse text = nodes →
      find text page name method = findIn nodes page name method := by
    rintro text rfl
    rfl
  rcases exists_first_or_none nodes name method with ⟨a, n, hfirst⟩ | hnone
  · have honly : ∀ b m, IsFirstForm nodes name method b m → m = n := by
      intro b m hb
      have hfound := (find?_isCalled_eq_some_iff.mpr ⟨b, hb⟩).symm.trans
        (find?_isCalled_eq_some_iff.mpr ⟨a, hfirst⟩)
      exact Option.some.inj hfound
    rw [findIn_of_first hfirst]
    refine ⟨⟨?_, ?_⟩, ⟨?_, ?_⟩, fun f => ⟨?_, ?_⟩, ?_, ?_, ?_⟩
    · rintro ⟨called, url, h⟩
      obtain ⟨action, fault, -, -, hbad⟩ := ofNode_eq_error_iff.mp h
      cases hbad
    · intro hnone
      exact absurd hfirst.holds (hnone a n hfirst.at_address)
    · rintro ⟨action, reason, h⟩
      obtain ⟨action, fault, hnamed, hjoin, -⟩ := ofNode_eq_error_iff.mp h
      exact ⟨a, n, action, fault, hfirst, hnamed, hjoin⟩
    · rintro ⟨b, m, action, fault, hb, hnamed, hjoin⟩
      obtain rfl := honly b m hb
      exact ⟨action, fault.message, ofNode_eq_error_iff.mpr ⟨action, fault, hnamed, hjoin, rfl⟩⟩
    · intro h
      exact ⟨a, n, hfirst, ofNode_eq_ok_iff.mp h⟩
    · rintro ⟨b, m, hb, h⟩
      obtain rfl := honly b m hb
      exact ofNode_eq_ok_iff.mpr h
    · intro e h
      obtain ⟨action, fault, -, hjoin, rfl⟩ := ofNode_eq_error_iff.mp h
      exact .inr ⟨action, fault, hjoin, rfl⟩
    · intro others c b m hc hb
      rw [hsame others c b m hc hb, findIn_of_first hfirst]
    · intro text htree
      rw [htext text htree, findIn_of_first hfirst]
  · have hnever : ∀ b m, ¬ IsFirstForm nodes name method b m := fun b m hb =>
      hnone b m hb.at_address hb.holds
    have hnotFound : findIn nodes page name method = .error (.formNotFound name page.render) :=
      findIn_of_none hnone
    refine ⟨⟨fun _ => hnone, fun _ => ⟨name, _, hnotFound⟩⟩, ⟨?_, ?_⟩, fun f => ⟨?_, ?_⟩, ?_, hsame,
      htext⟩
    · rintro ⟨action, reason, h⟩
      rw [hnotFound] at h
      cases h
    · rintro ⟨b, m, -, -, hb, -⟩
      exact absurd hb (hnever b m)
    · intro h
      rw [hnotFound] at h
      cases h
    · rintro ⟨b, m, hb, -⟩
      exact absurd hb (hnever b m)
    · intro e h
      rw [hnotFound] at h
      exact .inl (Except.error.inj h).symm

/-- One form on two pages, behind another form and in front of one. -/
theorem find_takes_first_form_of_two_pages :
    let page : Url := ⟨"http".toList, [], [], some (.domain "x".toList), none, .names [[]], none,
      none⟩
    let form : Node := .element (.html "form") [⟨"name", "f"⟩, ⟨"action", " a "⟩]
      [.element (.html "input") [⟨"name", "q"⟩] []]
    let search : Node := .element (.html "form") [⟨"name", "g"⟩] []
    let second : Node := .element (.html "form") [⟨"name", "f"⟩] []
    ∃ a b, IsFirstForm [search, form] "f" none a form ∧
      IsFirstForm [.text "x".toList, form, second] "f" none b form ∧
      findIn [.text "x".toList, form, second] page "f" none = findIn [search, form] page "f" none ∧
      (findIn [search, form] page "f" none).toOption.map (fun f => f.controls) =
        some [⟨"q", "", .value⟩] := by
  intro page form search second
  have hfields : (findIn [search, form] page "f" none).toOption.map (fun f => f.controls) =
      some [⟨"q", "", .value⟩] := by decide +kernel +revert
  obtain ⟨a, ha⟩ : ∃ a, IsFirstForm [search, form] "f" none a form :=
    find?_isCalled_eq_some_iff.mp rfl
  obtain ⟨b, hb⟩ : ∃ b, IsFirstForm [.text "x".toList, form, second] "f" none b form :=
    find?_isCalled_eq_some_iff.mp rfl
  obtain ⟨-, -, -, -, hsame, -⟩ := find_takes_first_form [search, form] page "f" none
  exact ⟨a, b, ha, hb, hsame _ a b form ha hb, hfields⟩

end PluginRelease.Form
