import PluginRelease.Proofs.Form.Control
import PluginRelease.Proofs.Form.Find
import PluginRelease.Proofs.Html.Draft.History

/-!
Which controls a found form has. A control that belongs to the form by its place in the text is
among them once, in document order, unless the form was not open any more when the control came, or
the end tag of the form came while an element was open around the control that may be moved out.
-/
namespace PluginRelease.Form
open Html Html.Draft
variable {f : Form} {n node : Node} {text name : String} {page : Url} {method : Option String}
  {us read rest : List Token} {t : Tag} {d : Draft} {i k : Nat} {l : List (Nat × Node)}

/-! ## What is sent -/

/-- A control with a name that a form sends, and for which it is not a matter of which button is
pressed. -/
structure Contributes (n : Node) : Prop where
  named : Control.own n "name" ≠ ""
  suits : n.tag? = some "input" ∧ Control.inputType n ≠ "reset" ∧ Control.inputType n ≠ "button" ∧
      ¬ Control.IsUncheckedBox n ∨
    n.tag? = some "textarea" ∨
    n.tag? = some "select" ∧ ∃ o ∈ n.descendants, o.tag? = some "option"

theorem exists_ofInput? (htag : n.tag? = some "input") (hname : Control.own n "name" ≠ "")
    (hreset : Control.inputType n ≠ "reset") (hbutton : Control.inputType n ≠ "button")
    (hbox : ¬ Control.IsUncheckedBox n) : ∃ c, Control.ofInput? n = some c := by
  unfold Control.ofInput?
  dsimp only
  split
  · exact ⟨_, rfl⟩
  · exact ⟨_, rfl⟩
  · next h => exact absurd h hreset
  · next h => exact absurd h hbutton
  · rw [if_neg hname]
    split
    · exact ⟨_, rfl⟩
    · split
      · next hkind =>
        split
        · exact ⟨_, rfl⟩
        · next hchecked => exact absurd ⟨htag, hkind, by simpa using hchecked⟩ hbox
      · exact ⟨_, rfl⟩

theorem Contributes.exists_control (h : Contributes n) : ∃ c, Control.ofNode? n = some c := by
  unfold Control.ofNode?
  rcases h.suits with ⟨htag, hreset, hbutton, hbox⟩ | htag | ⟨htag, o, ho, hoption⟩
  · rw [htag]
    exact exists_ofInput? htag h.named hreset hbutton hbox
  · rw [htag]
    exact ⟨_, if_neg h.named⟩
  · rw [htag]
    have hmem : o ∈ Control.options n := by simp [Control.options, ho, hoption]
    obtain ⟨first, others, hoptions⟩ := List.exists_cons_of_ne_nil (List.ne_nil_of_mem hmem)
    have hchosen : (Control.chosen? n).isSome := by simp [Control.chosen?, hoptions]
    obtain ⟨chosen, hchosen⟩ := Option.isSome_iff_exists.mp hchosen
    change ∃ c, Control.ofSelect? n = some c
    rw [Control.ofSelect?, if_neg h.named, hchosen]
    exact ⟨_, rfl⟩

/-! ## What belongs to a form -/

/-- A control that a start tag has added after some tokens belongs to a form: it is the one that
controls belong to, no template is open, and the tag names no other. -/
structure Belongs (read : List Token) (t : Tag) (i k : Nat) : Prop where
  new : (after read).entries.size ≤ i
  control : (after (read ++ [.startTag t])).IsIn controlTags i
  owner : (after (read ++ [.startTag t])).form = some k
  outside : (after (read ++ [.startTag t])).isInTemplate = false
  unbound : t.attribute? "form" = none

namespace Belongs
variable (h : Belongs read t i k)
include h

theorem settled : Settled (after (read ++ [.startTag t])) := by
  refine (early_or_settled _).resolve_left fun hearly => ?_
  have hnone := hearly.form_eq
  rw [h.owner] at hnone
  cases hnone

theorem form : (after (read ++ [.startTag t])).IsIn ["form"] k ∧
    (k ∈ (after (read ++ [.startTag t])).stack ∨
      Shut (after (read ++ [.startTag t])).settle k) := by
  have howner := h.owner
  rw [← form_settle] at howner
  obtain ⟨hform, hk⟩ := h.settled.sound.form k howner
  exact ⟨isIn_settle.mp hform, hk.imp_left (h.settled.mem_settle_iff (isIn_settle.mp hform)).mp⟩

theorem planted : Planted (.startTag t) (after (read ++ [.startTag t])).settle i :=
  planted_after h.new h.control

/-- A control has the attributes of its tag. -/
theorem added : (after (read ++ [.startTag t])).content? i =
    some (.element (.html t.name) t.attributes) := by
  obtain ⟨s, hs, hc⟩ := h.planted.made
  obtain rfl := Token.startTag.inj hs
  rwa [content?_congr (entries_settle _)] at hc

theorem ne_form : i ≠ k := by
  rintro rfl
  exact h.control.not_of_disjoint (by decide) h.form.1

/-- A control that belongs to an open form stands in it. -/
theorem held (hopen : k ∈ (after (read ++ [.startTag t])).stack) :
    Held (after (read ++ [.startTag t])).settle k i := by
  have hform := isIn_settle.mpr h.form.1
  have hopen' := (h.settled.mem_settle_iff h.form.1).mpr hopen
  refine ⟨h.planted.inside k hform hopen' ?_, .inl hopen'⟩
  rw [isInTemplate_eq_false_iff]
  intro j hj hin
  exact isInTemplate_eq_false_iff.mp h.outside j ((suffix_settle _).subset hj) (isIn_settle.mp hin)

/-- A control that belongs to an open form stands in it in the end, or drifts. -/
theorem under_or_drifts (hopen : k ∈ (after (read ++ [.startTag t])).stack) (rest : List Token) :
    Under (after (read ++ [.startTag t] ++ rest)) k i ∨ Drifts (read ++ [.startTag t]) rest k i :=
  h.settled.under_or_drifts h.form.1 (h.held hopen) rest

/-- A control that belongs to a closed form never stands in it. -/
theorem not_under (hclosed : k ∉ (after (read ++ [.startTag t])).stack) (rest : List Token) :
    ¬ Under (after (read ++ [.startTag t] ++ rest)) k i := by
  have hshut := h.form.2.resolve_left hclosed
  have hout := h.planted.outside k (isIn_settle.mpr h.form.1) hshut
  exact h.settled.outside h.form.1 hshut (lt_of_content? h.added) (fun hu => hout (under_settle.mpr hu))
    rest

/-- A control keeps its attributes. -/
theorem content (rest : List Token) : (after (read ++ [.startTag t] ++ rest)).content? i =
    some (.element (.html t.name) t.attributes) := by
  have htag : t.name ∈ controlTags :=
    (isIn_iff_of_name? (name?_eq_some_iff.mpr ⟨_, h.added⟩)).mp h.control
  have hother : ∀ other ∈ ["html", "body"], ElementName.html t.name ≠ .html other :=
    html_ne_of_not_mem ((by decide : ∀ tag ∈ controlTags, tag ∉ ["html", "body"]) _ htag)
  exact h.settled.content ⟨hother _ (.head _), hother _ (.tail _ (.head _))⟩ h.added rest

end Belongs

/-! ## What is found -/

/-- The controls that some entries of a page give. -/
def controlsIn (l : List (Nat × Node)) : List Control := l.filterMap fun e => Control.ofNode? e.2

theorem find?_listed (d : Draft) (p : Node → Bool) :
    (d.listed.find? fun e => p e.2).map (·.2) = (Node.forest d.page).find? p := by
  rw [← map_snd_listed, List.find?_map]
  rfl

/-- A form that is found is the first of its name among the entries of the page. -/
theorem exists_listed_of_find (h : find text page name method = .ok f) : ∃ k node,
    (after (tokens text)).listed.find? (fun e => isCalled name method e.2) = some (k, node) ∧
      f.controls = controlsOf node := by
  unfold find findIn at h
  rw [← page_after_tokens, ← find?_listed] at h
  cases hfound : (after (tokens text)).listed.find? fun e => isCalled name method e.2 with
  | none =>
    rw [hfound] at h
    cases h
  | some e =>
    rw [hfound] at h
    exact ⟨e.1, e.2, rfl, (ofNode_eq_ok_iff.mp h).2.2.2⟩

/-- A page with a form has a head. -/
theorem settled_of_listed (hfound : (after us).listed.find? (fun e => isCalled name method e.2) =
    some (k, node)) : Settled (after us) := by
  refine (early_or_settled us).resolve_left fun hearly => ?_
  have hshows : (after us).Shows k node := Rooted.shows_of_mem (List.mem_of_find?_eq_some hfound)
  have hcalled : isCalled name method node = true := by simpa using List.find?_some hfound
  have hform := (isCalled_iff.mp hcalled).is_form
  cases node with
  | text s => cases hform
  | element n attributes children =>
    obtain rfl := hearly.eq_html (name?_eq_some_iff.mpr ⟨attributes, hshows⟩)
    simp [Node.tag?, ElementName.html] at hform

/-- Where an entry stands among others, each of which is there once. -/
theorem exists_split (hi : i ∈ l.map (·.1)) (honce : (l.map (·.1)).Nodup) :
    ∃ before n behind, l = before ++ (i, n) :: behind ∧ ∀ e ∈ before ++ behind, e.1 ≠ i := by
  obtain ⟨⟨j, n⟩, hmem, rfl⟩ := List.mem_map.mp hi
  obtain ⟨before, behind, rfl⟩ := List.append_of_mem hmem
  refine ⟨before, n, behind, rfl, fun e he heq => ?_⟩
  rw [List.map_append, List.map_cons, List.nodup_middle, List.nodup_cons] at honce
  refine honce.1 ?_
  rw [← List.map_append]
  exact List.mem_map.mpr ⟨e, he, heq⟩

theorem controlsIn_append {before behind : List (Nat × Node)} {c : Control}
    (hc : Control.ofNode? n = some c) :
    controlsIn (before ++ (i, n) :: behind) = controlsIn before ++ c :: controlsIn behind := by
  have hcons : controlsIn ((i, n) :: behind) = c :: controlsIn behind :=
    List.filterMap_cons_some hc
  rw [← hcons]
  exact List.filterMap_append

/-- A found form has the controls that stand below it, in document order. A control that belongs to
it while it is open stands there once with the attributes of its tag, and gives one control if it
is one that is sent; or it drifts, and is lost. A control that belongs to it when it is no longer
open is lost. -/
theorem find_gives_controls (h : find text page name method = .ok f) :
    ∃ k node l, (after (tokens text)).page = Html.parse text ∧
      (after (tokens text)).listed.find? (fun e => isCalled name method e.2) = some (k, node) ∧
      IsBelow (after (tokens text)) k node l ∧ f.controls = controlsIn l ∧
      ∀ read t rest i, tokens text = read ++ .startTag t :: rest → Belongs read t i k →
        (k ∈ (after (read ++ [.startTag t])).stack →
          (∃ before children behind,
            let n := Node.element (.html t.name) t.attributes children
            l = before ++ (i, n) :: behind ∧ (∀ e ∈ before ++ behind, e.1 ≠ i) ∧
              (Contributes n → ∃ c, Control.ofNode? n = some c ∧
                f.controls = controlsIn before ++ c :: controlsIn behind)) ∨
          (∀ e ∈ l, e.1 ≠ i) ∧ Drifts (read ++ [.startTag t]) rest k i) ∧
        (k ∉ (after (read ++ [.startTag t])).stack → ∀ e ∈ l, e.1 ≠ i) := by
  obtain ⟨k, node, hfound, hcontrols⟩ := exists_listed_of_find h
  obtain ⟨-, l, hbelow⟩ := (settled_of_listed hfound).rooted.exists_isBelow_of_listed
    (List.mem_of_find?_eq_some hfound)
  have hgiven : f.controls = controlsIn l := by
    rw [hcontrols, controlsOf, ← hbelow.nodes, List.filterMap_map]
    rfl
  refine ⟨k, node, l, page_after_tokens text, hfound, hbelow, hgiven, fun read t rest i htext hb => ?_⟩
  have hfinal : after (tokens text) = after (read ++ [.startTag t] ++ rest) := by
    rw [htext, List.append_assoc, List.singleton_append]
  have hlost (hu : ¬ Under (after (tokens text)) k i) : ∀ e ∈ l, e.1 ≠ i := by
    rintro e he rfl
    exact hu ((hbelow.mem_iff e.1).mp (List.mem_map_of_mem he)).2
  refine ⟨fun hopen => ?_, fun hclosed => hlost (hfinal ▸ hb.not_under hclosed rest)⟩
  by_cases hu : Under (after (tokens text)) k i
  · refine .inl ?_
    have hmem : i ∈ l.map (·.1) := (hbelow.mem_iff i).mpr ⟨hb.ne_form, hu⟩
    obtain ⟨before, n, behind, rfl, hother⟩ := exists_split hmem hbelow.once
    have hshows : (after (tokens text)).Shows i n := hbelow.shows (i, n) (by simp)
    have hcontent := hfinal ▸ hb.content rest
    cases n with
    | text s => cases hshows.symm.trans hcontent
    | element name attributes children =>
      obtain ⟨rfl, rfl⟩ : name = .html t.name ∧ attributes = t.attributes := by
        simpa using hshows.symm.trans hcontent
      refine ⟨before, children, behind, rfl, hother, fun hcontributes => ?_⟩
      obtain ⟨c, hc⟩ := hcontributes.exists_control
      exact ⟨c, hc, hgiven.trans (controlsIn_append hc)⟩
  · refine .inr ⟨hlost hu, (hb.under_or_drifts hopen rest).resolve_left ?_⟩
    rwa [← hfinal]

theorem contributes_text_input (children : List Node) :
    Contributes (.element (.html "input") [⟨"name", "a"⟩] children) := by
  have htype : Control.inputType (.element (.html "input") [⟨"name", "a"⟩] children) = "text" := by
    change Control.lower "text" = "text"
    decide +kernel
  refine ⟨by simp [Control.own, Node.attribute?], .inl ⟨rfl, ?_, ?_, ?_⟩⟩
  · exact htype ▸ by decide
  · exact htype ▸ by decide
  · rintro ⟨-, h | h, -⟩
    · exact absurd (htype.symm.trans h) (by decide)
    · exact absurd (htype.symm.trans h) (by decide)

/-- A control in a table, which goes before the table and into the form around it. -/
theorem belongs_in_table :
    Belongs [.startTag ⟨"form", [⟨"name", "f"⟩], false⟩, .startTag (.plain "table")]
      ⟨"input", [⟨"name", "a"⟩], false⟩ 6 4 where
  new := by decide +kernel
  control := ⟨"input", by decide, by decide +kernel⟩
  owner := by decide +kernel
  outside := by decide +kernel
  unbound := rfl

/-- The end tag of a form after its table closes it with all inside it. -/
theorem shut_behind_table :
    Shut (after [.startTag ⟨"form", [⟨"name", "f"⟩], false⟩, .startTag (.plain "table"),
      .startTag ⟨"input", [⟨"name", "a"⟩], false⟩, .endTag (.plain "table"),
      .endTag (.plain "form")]) 4 := by
  generalize hd : after _ = d
  have hstack : d.stack = [3, 1] := by rw [← hd]; decide +kernel
  have hbody : d.parent? 3 = some 1 := by rw [← hd]; decide +kernel
  have hhtml : d.parent? 1 = some 0 := by rw [← hd]; decide +kernel
  have hroot : d.parent? 0 = none := by rw [← hd]; decide +kernel
  intro s hs
  rw [hstack] at hs
  have hs : s = 3 ∨ s = 1 := by simpa using hs
  rcases hs with rfl | rfl
  · rw [under_step hbody, under_step hhtml, under_of_free hroot]
    decide
  · rw [under_step hhtml, under_of_free hroot]
    decide

theorem find_gives_control_of_table :
    let page : Url := ⟨"http".toList, [], [], some (.domain "x".toList), none, .names [[]], none,
      none⟩
    let text := "<form name=f><table><input name=a></table></form>"
    ∃ f l before children behind c, find text page "f" none = .ok f ∧ f.controls = controlsIn l ∧
      l = before ++ (6, .element (.html "input") [⟨"name", "a"⟩] children) :: behind ∧
      c.name = "a" ∧ f.controls = controlsIn before ++ c :: controlsIn behind := by
  intro page text
  have hfind : find text page "f" none = .ok ⟨"f", "GET", page, [⟨"a", "", .value⟩]⟩ :=
    eq_ok_of_toOption (by decide +kernel +revert)
  have htext : tokens "<form name=f><table><input name=a></table></form>" =
      [.startTag ⟨"form", [⟨"name", "f"⟩], false⟩, .startTag (.plain "table")] ++
        .startTag ⟨"input", [⟨"name", "a"⟩], false⟩ ::
          [.endTag (.plain "table"), .endTag (.plain "form"), .finish] := by decide +kernel
  have hfirst : ((after (tokens "<form name=f><table><input name=a></table></form>")).listed.find?
      fun e => isCalled "f" none e.2).map (·.1) = some 4 := by decide +kernel
  have hopen : 4 ∈ (after ([.startTag ⟨"form", [⟨"name", "f"⟩], false⟩, .startTag (.plain "table")] ++
      [.startTag ⟨"input", [⟨"name", "a"⟩], false⟩])).stack := by decide +kernel
  obtain ⟨k, node, l, -, hfound, -, hcontrols, hall⟩ := find_gives_controls hfind
  rw [hfound] at hfirst
  obtain rfl : k = 4 := Option.some.inj hfirst
  rcases (hall _ _ _ _ htext belongs_in_table).1 hopen with
    ⟨before, children, behind, hl, -, hgives⟩ | ⟨-, a, t, b, hrest, ht, -, -, hunder, hdrifts⟩
  · obtain ⟨c, hc, hsplit⟩ := hgives (contributes_text_input children)
    refine ⟨_, l, before, children, behind, c, hfind, hcontrols, hl, ?_, hsplit⟩
    rw [(Control.isOf_of_ofNode? hc).name]
    rfl
  · rcases a with _ | ⟨_, _ | ⟨_, _ | ⟨_, a⟩⟩⟩
    · cases hrest
      exact absurd ht (by decide)
    · cases hrest
      exact absurd (shut_behind_table.moored hunder) (hdrifts [] (List.nil_prefix))
    · cases hrest
    · simp at hrest

/-- A form that is opened in a table, and one whose end tag comes before that of an element that was
opened in it: the control of each belongs to it and is lost. -/
theorem find_loses_controls :
    let page : Url := ⟨"http".toList, [], [], some (.domain "x".toList), none, .names [[]], none,
      none⟩
    ∀ text ∈ ["<table><form name=f><tr><td><input name=a></td></tr></form></table>",
        "<form name=f><b><div><input name=a></form></b>"],
      ∃ f read t rest i k, find text page "f" none = .ok f ∧ f.controls = [] ∧
        tokens text = read ++ .startTag t :: rest ∧ Belongs read t i k ∧
        ((after (tokens text)).listed.find? fun e => isCalled "f" none e.2).map (·.1) = some k ∧
        Contributes (.element (.html t.name) t.attributes []) := by
  intro page text htext
  rcases List.mem_cons.mp htext with rfl | htext
  · refine ⟨⟨"f", "GET", page, []⟩,
      [.startTag (.plain "table"), .startTag ⟨"form", [⟨"name", "f"⟩], false⟩,
        .startTag (.plain "tr"), .startTag (.plain "td")], ⟨"input", [⟨"name", "a"⟩], false⟩,
      [.endTag (.plain "td"), .endTag (.plain "tr"), .endTag (.plain "form"),
        .endTag (.plain "table"), .finish], 9, 5,
      eq_ok_of_toOption (by decide +kernel), rfl, by decide +kernel,
      ⟨by decide +kernel, ⟨"input", by decide, by decide +kernel⟩, by decide +kernel,
        by decide +kernel, rfl⟩, by decide +kernel, contributes_text_input []⟩
  · obtain rfl := List.mem_singleton.mp htext
    refine ⟨⟨"f", "GET", page, []⟩,
      [.startTag ⟨"form", [⟨"name", "f"⟩], false⟩, .startTag (.plain "b"),
        .startTag (.plain "div")], ⟨"input", [⟨"name", "a"⟩], false⟩,
      [.endTag (.plain "form"), .endTag (.plain "b"), .finish], 7, 4,
      eq_ok_of_toOption (by decide +kernel), rfl, by decide +kernel,
      ⟨by decide +kernel, ⟨"input", by decide, by decide +kernel⟩, by decide +kernel,
        by decide +kernel, rfl⟩, by decide +kernel, contributes_text_input []⟩

end PluginRelease.Form
