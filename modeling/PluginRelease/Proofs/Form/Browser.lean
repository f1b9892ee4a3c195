import PluginRelease.Proofs.Form.Agreement
import PluginRelease.Proofs.Form.Find

/-!
A form as it was found is sent as a browser sends it, if its controls are plain. What is disabled is
sent like all else, and a checked box with an empty value like one without: the form is sent as a
browser sends it with these marks cleared.
-/
namespace PluginRelease.Form.EntryList
open Html Text Control
variable {charset : String} {direction : Node → String} {m n : Node} {nodes : List Node} {f : Form}
  {page : Url} {name key : String} {method : Option String} {a : List Nat}

/-! ## A form with its marks cleared -/

/-- Whether the element is an input whose value is empty. -/
def hasEmptyValue (name : ElementName) (attributes : List Attribute) : Bool :=
  name.tag = "input" && (attributes.find? (·.name = "value")).any (·.value = "")

/-- Attributes without the mark that disables, and without an empty value of an input. -/
def clearedAttributes (name : ElementName) (attributes : List Attribute) : List Attribute :=
  attributes.filter fun a =>
    a.name ≠ "disabled" ∧ ¬ (a.name = "value" ∧ hasEmptyValue name attributes = true)

mutual

def cleared : Node → Node
  | .element name attributes children =>
    .element name (clearedAttributes name attributes) (clearedAll children)
  | .text content => .text content

def clearedAll : List Node → List Node
  | [] => []
  | n :: ns => cleared n :: clearedAll ns

end

mutual

theorem descendants_cleared : ∀ n : Node, (cleared n).descendants = n.descendants.map cleared
  | .element name attributes children => by
    rw [cleared, Node.descendants, Node.descendants]
    exact forest_clearedAll children
  | .text _ => rfl

theorem forest_clearedAll : ∀ ns : List Node,
    Node.forest (clearedAll ns) = (Node.forest ns).map cleared
  | [] => rfl
  | n :: ns => by
    rw [clearedAll, Node.forest, Node.forest, descendants_cleared n, forest_clearedAll ns,
      List.map_cons, List.map_append]

end

@[simp] theorem tag?_cleared (m : Node) : (cleared m).tag? = m.tag? := by
  cases m with
  | element name attributes children => rw [cleared, Node.tag?, Node.tag?]
  | text content => rw [cleared]

@[simp] theorem textContent_cleared (m : Node) : (cleared m).textContent = m.textContent := by
  have hown (m : Node) : (cleared m).ownText = m.ownText := by
    cases m with
    | element name attributes children => rw [cleared, Node.ownText, Node.ownText]
    | text content => rw [cleared]
  simp [Node.textContent, descendants_cleared, List.flatMap_map, hown]

theorem attribute?_cleared (hdisabled : key ≠ "disabled") (hvalue : key ≠ "value") (m : Node) :
    (cleared m).attribute? key = m.attribute? key := by
  cases m with
  | element name attributes children =>
    rw [cleared, Node.attribute?, Node.attribute?, clearedAttributes, List.find?_filter]
    congr 2
    funext a
    by_cases ha : a.name = key
    · subst ha
      simp [hdisabled, hvalue]
    · simp [ha]
  | text content => rw [cleared]

/-- Only an empty value of an input is cleared. -/
theorem attribute?_value_cleared (m : Node) : (cleared m).attribute? "value" =
    if m.tag? = some "input" ∧ m.attribute? "value" = some "" then none
    else m.attribute? "value" := by
  cases m with
  | element name attributes children =>
    rw [cleared, Node.attribute?, Node.attribute?, Node.tag?, clearedAttributes, List.find?_filter]
    have hempty : (some name.tag = some "input" ∧
        (attributes.find? (·.name = "value")).map (·.value) = some "") ↔
          hasEmptyValue name attributes = true := by
      rw [hasEmptyValue, Bool.and_eq_true, decide_eq_true_iff, Option.some.injEq]
      cases attributes.find? (·.name = "value") <;> simp
    simp only [hempty]
    split
    · next hclear =>
      rw [Option.map_eq_none_iff, List.find?_eq_none]
      intro a _
      simp [hclear]
    · next hclear =>
      congr 2
      funext a
      by_cases ha : a.name = "value"
      · simp [ha, hclear]
      · simp [ha]
  | text content =>
    rw [cleared]
    simp [Node.attribute?]

/-! ## The same controls -/

@[simp] theorem own_cleared (hdisabled : key ≠ "disabled") (m : Node) :
    own (cleared m) key = own m key := by
  unfold own
  by_cases hvalue : key = "value"
  · subst hvalue
    rw [attribute?_value_cleared]
    split
    · next h =>
      rw [h.2]
      rfl
    · rfl
  · rw [attribute?_cleared hdisabled hvalue]

theorem options_cleared (m : Node) : options (cleared m) = (options m).map cleared := by
  rw [options, options, descendants_cleared, List.filter_map]
  simp [Function.comp_def]

theorem chosen?_cleared (m : Node) : chosen? (cleared m) = (chosen? m).map cleared := by
  have hmark : (·.hasAttribute "selected") ∘ cleared =
      fun o : Node => o.hasAttribute "selected" := by
    funext o
    rw [Function.comp_apply, Node.hasAttribute, Node.hasAttribute,
      attribute?_cleared (by decide) (by decide)]
  rw [chosen?, chosen?, options_cleared, List.find?_map, List.head?_map, Option.map_or, hmark]

theorem optionValue_cleared {o : Node} (ho : o ∈ options m) :
    optionValue (cleared o) = optionValue o := by
  have htag : o.tag? = some "option" := of_decide_eq_true (List.mem_filter.mp ho).2
  rw [optionValue, optionValue, attribute?_value_cleared, textContent_cleared, htag]
  simp

theorem mem_options_of_chosen? {o : Node} (h : chosen? m = some o) : o ∈ options m := by
  rw [chosen?, Option.or_eq_some_iff] at h
  rcases h with h | ⟨-, h⟩
  · exact List.mem_of_find?_eq_some h
  · exact List.mem_of_head? h

theorem ofNode?_cleared (m : Node) : ofNode? (cleared m) = ofNode? m := by
  have hname : own (cleared m) "name" = own m "name" := own_cleared (by decide) m
  have hvalue : own (cleared m) "value" = own m "value" := own_cleared (by decide) m
  have htype : (cleared m).attribute? "type" = m.attribute? "type" :=
    attribute?_cleared (by decide) (by decide) m
  have hchecked : (cleared m).hasAttribute "checked" = m.hasAttribute "checked" := by
    rw [Node.hasAttribute, Node.hasAttribute, attribute?_cleared (by decide) (by decide)]
  have hselect : ofSelect? (cleared m) = ofSelect? m := by
    rw [ofSelect?, ofSelect?, hname, chosen?_cleared]
    split
    · rfl
    · cases hchosen : chosen? m with
      | none => rfl
      | some o => simp [optionValue_cleared (mem_options_of_chosen? hchosen)]
  unfold ofNode?
  rw [tag?_cleared, hselect, ofInput?, ofInput?, ofButton?, ofButton?, ofTextarea?, ofTextarea?,
    hname, hvalue, htype, hchecked, textContent_cleared]

/-- Neither disabling a control nor an empty value of an input changes what a form is read as. -/
theorem controlsOf_cleared (n : Node) : controlsOf (cleared n) = controlsOf n := by
  rw [controlsOf, controlsOf, descendants_cleared, List.filterMap_map]
  congr 1
  funext m
  exact ofNode?_cleared m

/-! ## Found forms -/

theorem pairs_of_plain (hcontrols : f.controls = controlsOf n) (h : IsPlainForm n) :
    f.pairs = entries charset direction n := by
  have hgroups : GroupsSingle ((below false n).map (·.2)) := map_below false n ▸ h.groups
  rw [entries, entriesFrom_eq h.usual h.plain hgroups, map_below, pairs_eq_flatMap, hcontrols]
  rfl

/-- What is sent of a form as it was found is what a browser sends with the first submit button,
files left out, if all controls of the form are plain. It is what a browser sends of the form with
its marks cleared if they are plain then: a disabled control is sent like an enabled one, and a
checked box with an empty value as one without a value. -/
theorem pairs_as_browser (hfirst : IsFirstForm nodes name method a n)
    (hfind : findIn nodes page name method = .ok f) (charset : String)
    (direction : Node → String) :
    (IsPlainForm n → f.pairs = entries charset direction n) ∧
      (IsPlainForm (cleared n) → f.pairs = entries charset direction (cleared n)) := by
  have hcontrols : f.controls = controlsOf n := by
    rw [findIn_of_first hfirst] at hfind
    exact (ofNode_eq_ok_iff.mp hfind).2.2.2
  exact ⟨pairs_of_plain hcontrols, pairs_of_plain (hcontrols.trans (controlsOf_cleared n).symm)⟩

/-- A form with a control of each kind. -/
theorem pairs_as_browser_of_all_kinds :
    let page : Url := ⟨"http".toList, [], [], some (.domain "x".toList), none, .names [[]], none,
      none⟩
    let option (text : List Char) (marks : List Attribute) : Node :=
      .element (.html "option") marks [.text text]
    let form : Node := .element (.html "form") [⟨"name", "f"⟩]
      [.element (.html "input") [⟨"name", "a"⟩, ⟨"value", "1"⟩] [],
        .element (.html "input") [⟨"type", "checkbox"⟩, ⟨"name", "b"⟩, ⟨"checked", ""⟩] [],
        .element (.html "select") [⟨"name", "c"⟩] [option ['1'] [], option ['2'] [⟨"selected", ""⟩]],
        .element (.html "textarea") [⟨"name", "d"⟩] [.text ['t']],
        .element (.html "input") [⟨"type", "file"⟩, ⟨"name", "e"⟩] [],
        .element (.html "button") [⟨"name", "g"⟩, ⟨"value", "go"⟩] []]
    IsPlainForm form ∧ ∃ a f, IsFirstForm [form] "f" none a form ∧
      findIn [form] page "f" none = .ok f ∧
      f.pairs = entries "UTF-8" (fun _ => "ltr") form ∧
      f.pairs = entries "UTF-8" (fun _ => "ltr") (cleared form) ∧
      f.pairs = [("a", "1"), ("b", "on"), ("c", "2"), ("d", "t"), ("g", "go")] := by
  intro page option form
  obtain ⟨hplain, hcleared, hfound⟩ : IsPlainForm form ∧ IsPlainForm (cleared form) ∧
      (findIn [form] page "f" none).toOption = some ⟨"f", "GET", page,
        [⟨"a", "1", .value⟩, ⟨"b", "on", .value⟩, ⟨"c", "2", .value⟩, ⟨"d", "t", .value⟩,
          ⟨"e", "", .file⟩, ⟨"g", "go", .submit⟩]⟩ := by decide +kernel +revert
  have hfind := eq_ok_of_toOption hfound
  obtain ⟨a, hfirst⟩ : ∃ a, IsFirstForm [form] "f" none a form :=
    find?_isCalled_eq_some_iff.mp rfl
  obtain ⟨hentries, hmarked⟩ := pairs_as_browser hfirst hfind "UTF-8" fun _ => "ltr"
  exact ⟨hplain, a, _, hfirst, hfind, hentries hplain, hmarked hcleared, by decide⟩

/-- A field that is disabled and a checked box with an empty value, which a browser does not send
and sends empty. -/
theorem pairs_of_disabled_field :
    let page : Url := ⟨"http".toList, [], [], some (.domain "x".toList), none, .names [[]], none,
      none⟩
    let form : Node := .element (.html "form") [⟨"name", "f"⟩]
      [.element (.html "input") [⟨"name", "a"⟩, ⟨"disabled", ""⟩] [],
        .element (.html "input") [⟨"type", "checkbox"⟩, ⟨"name", "b"⟩, ⟨"value", ""⟩,
          ⟨"checked", ""⟩] []]
    (∀ e ∈ below false form, IsUsual e.2) ∧ ∃ f, findIn [form] page "f" none = .ok f ∧
      f.pairs = [("a", ""), ("b", "on")] ∧
      entries "UTF-8" (fun _ => "ltr") form = [("b", "")] := by
  intro page form
  obtain ⟨husual, hfound, hentries⟩ : (∀ e ∈ below false form, IsUsual e.2) ∧
      (findIn [form] page "f" none).toOption = some ⟨"f", "GET", page,
        [⟨"a", "", .value⟩, ⟨"b", "on", .value⟩]⟩ ∧
      entries "UTF-8" (fun _ => "ltr") form = [("b", "")] := by decide +kernel +revert
  exact ⟨husual, _, eq_ok_of_toOption hfound, by decide, hentries⟩

end PluginRelease.Form.EntryList
