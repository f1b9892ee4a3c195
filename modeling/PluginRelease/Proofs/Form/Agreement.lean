import PluginRelease.Proofs.Form.EntryList
import PluginRelease.Proofs.Form.Sending

/-!
What is sent of one control that is plain is what the standard makes of it, kind by kind, and so it
is for a whole list of controls.
-/
namespace PluginRelease.Form.EntryList
open Html Text Control
variable {charset : String} {direction : Node → String} {m n : Node} {barred isLate : Bool}
  {tag t : String} {later : List Node} {c : Control} {cs : List Control}

/-! ## All below a form -/

mutual

theorem map_below (barred : Bool) : ∀ n : Node, (below barred n).map (·.2) = n.descendants
  | .element name attributes children => by
    rw [below, Node.descendants]
    split
    · exact map_inOrder true none children
    · split
      · exact map_inOrder true (some barred) children
      · exact map_inOrder barred none children
  | .text _ => rfl

theorem map_inOrder (barred : Bool) (legend : Option Bool) :
    ∀ ns : List Node, (inOrder barred legend ns).map (·.2) = Node.forest ns
  | [] => rfl
  | n :: ns => by
    rw [inOrder, Node.forest]
    split
    · rw [List.cons_append, List.map_cons, List.map_append, map_below (legend.getD barred) n,
        map_inOrder barred none ns]
    · rw [List.cons_append, List.map_cons, List.map_append, map_below barred n,
        map_inOrder barred legend ns]

end

/-! ## Elements by their tags -/

theorem tag?_of_isHtml (h : isHtml tag m = true) : m.tag? = some tag := by
  cases m with
  | element name attributes children =>
    obtain rfl := of_decide_eq_true h
    rfl
  | text content => cases h

theorem isHtml_of_tag_ne (h : m.tag? = some t) (hne : t ≠ tag) : isHtml tag m = false := by
  rw [Bool.eq_false_iff]
  intro hhtml
  exact hne (Option.some.inj (h.symm.trans (tag?_of_isHtml hhtml)))

/-- What is sent of a control, files left out. -/
def sentOf (c : Control) : List (String × String) :=
  if c.name = "" ∨ c.kind = .file then [] else [(c.name, c.value)]

theorem pairs_eq_flatMap (f : Form) : f.pairs = (oneSubmit f.controls).flatMap sentOf := by
  rw [pairs, submitted]
  induction oneSubmit f.controls with
  | nil => rfl
  | cons c cs ih =>
    rw [List.flatMap_cons, ← ih]
    by_cases hname : c.name = ""
    · simp [sentOf, hname]
    · by_cases hfile : c.kind = .file
      · simp [sentOf, hname, hfile]
      · simp [sentOf, hname, hfile]

/-! ## Inputs -/

theorem inputState_eq_iff (ht : t ∈ knownTypes) : inputState m = t ↔ inputType m = t := by
  unfold inputState
  split
  · rfl
  · next hother =>
    have htext : "text" ∉ knownTypes := by decide
    constructor
    · rintro rfl
      exact absurd ht htext
    · rintro rfl
      exact absurd ht hother

theorem ofInput?_eq (m : Node) : ofInput? m =
    if inputState m = "submit" ∨ inputState m = "image" then
      some ⟨own m "name", own m "value", .submit⟩
    else if inputState m = "reset" ∨ inputState m = "button" then none
    else if own m "name" = "" then none
    else if inputState m = "file" then some ⟨own m "name", "", .file⟩
    else if inputState m = "checkbox" ∨ inputState m = "radio" then
      if m.hasAttribute "checked" then
        some ⟨own m "name", if own m "value" = "" then "on" else own m "value", .value⟩
      else none
    else some ⟨own m "name", own m "value", .value⟩ := by
  simp only [inputState_eq_iff (m := m) (t := "submit") (by decide),
    inputState_eq_iff (m := m) (t := "image") (by decide),
    inputState_eq_iff (m := m) (t := "reset") (by decide),
    inputState_eq_iff (m := m) (t := "button") (by decide),
    inputState_eq_iff (m := m) (t := "file") (by decide),
    inputState_eq_iff (m := m) (t := "checkbox") (by decide),
    inputState_eq_iff (m := m) (t := "radio") (by decide)]
  unfold ofInput?
  dsimp only
  have htype : lower ((m.attribute? "type").getD "text") = inputType m := rfl
  rw [htype]
  split
  · next h => simp [h]
  · next h => simp [h]
  · next h => simp [h]
  · next h => simp [h]
  · next hsubmit himage hreset hbutton =>
    rw [if_neg (not_or.mpr ⟨hsubmit, himage⟩), if_neg (not_or.mpr ⟨hreset, hbutton⟩)]

/-! ## Texts of options -/

theorem words_go_eq (s acc : List Char) :
    words.go s acc = (s.splitOnPPrepend isBlank acc).filter (!·.isEmpty) := by
  induction s generalizing acc with
  | nil =>
    rw [words.go, List.splitOnPPrepend]
    cases acc <;> simp
  | cons c s ih =>
    rw [words.go, List.splitOnPPrepend]
    split
    · cases acc <;> simp [ih]
    · exact ih (c :: acc)

theorem splitOnPPrepend_congr {p q : Char → Bool} {s : List Char} (h : ∀ c ∈ s, p c = q c)
    (acc : List Char) : s.splitOnPPrepend p acc = s.splitOnPPrepend q acc := by
  induction s generalizing acc with
  | nil => rfl
  | cons c s ih =>
    obtain ⟨hc, hs⟩ := List.forall_mem_cons.mp h
    rw [List.splitOnPPrepend, List.splitOnPPrepend, hc, ih hs, ih hs]

/-- Without blanks that HTML does not know, words are those of HTML. -/
theorem joinWith_words {s : List Char} (h : ∀ c ∈ s, isBlank c = isSpace c) :
    joinWith [' '] (words s) = collapse s := by
  rw [collapse, words, words_go_eq, List.splitOnP, splitOnPPrepend_congr h]

/-! ## One control -/

/-- What is sent of a control that stands behind a submit button, or does not. -/
def sentUnlessLate (isLate : Bool) (c : Control) : List (String × String) :=
  if c.kind = .submit ∧ isLate = true then [] else sentOf c

/-- An element gives the entries that are sent of its control. -/
structure Agrees (charset : String) (direction : Node → String) (barred : Bool) (m : Node)
    (later : List Node) : Prop where
  entries : ∀ isLate, (if takesPart barred isLate m then entriesOf charset direction m later
    else []) = (ofNode? m).toList.flatMap (sentUnlessLate isLate)
  submits : isSubmitButton m = (ofNode? m).any (·.kind = .submit)

theorem entriesOf_plain (hp : IsPlain barred m) (later : List Node) :
    entriesOf charset direction m later =
      if own m "name" = "" then [] else (values charset m later).map (own m "name", ·) := by
  unfold entriesOf
  split
  · rfl
  · cases h : tellsDirection m with
    | false => simp
    | true => simp [hp.direction h]

theorem takesPart_of_plain (hp : IsPlain barred m) (hm : isControl m = true) (isLate : Bool) :
    takesPart barred isLate m = (!isButton m || isSubmitButton m && !isLate) := by
  obtain ⟨hbarred, hdisabled⟩ := hp.enabled hm
  simp [takesPart, hbarred, hdisabled]

section Kinds
variable (hp : IsPlain barred m) (hm : isControl m = true)
include hp hm

theorem Agrees.of_submit (hbutton : isButton m = true) (hsubmit : isSubmitButton m = true)
    (hnode : ofNode? m = some ⟨own m "name", own m "value", .submit⟩)
    (hvalues : values charset m later = [own m "value"]) :
    Agrees charset direction barred m later := by
  constructor
  · intro isLate
    rw [takesPart_of_plain hp hm, hbutton, hsubmit, entriesOf_plain hp, hvalues, hnode]
    cases isLate <;> simp [sentUnlessLate, sentOf]
  · simp [hsubmit, hnode]

/-- A button that resets a form, or that is there for scripts. -/
theorem Agrees.of_idle (hbutton : isButton m = true) (hsubmit : isSubmitButton m = false)
    (hnode : ofNode? m = none) : Agrees charset direction barred m later := by
  constructor
  · intro isLate
    rw [takesPart_of_plain hp hm, hbutton, hsubmit, hnode]
    rfl
  · rw [hsubmit, hnode]
    rfl

theorem Agrees.of_field (hbutton : isButton m = false) (hsubmit : isSubmitButton m = false)
    (hkind : ∀ c ∈ ofNode? m, c.kind ≠ .submit)
    (hvalues : (ofNode? m).toList.flatMap sentOf =
      if own m "name" = "" then [] else (values charset m later).map (own m "name", ·)) :
    Agrees charset direction barred m later := by
  constructor
  · intro isLate
    rw [takesPart_of_plain hp hm, hbutton, entriesOf_plain hp, ← hvalues]
    cases hnode : ofNode? m with
    | none => rfl
    | some c => simp [sentUnlessLate, hkind c hnode]
  · rw [hsubmit]
    cases hnode : ofNode? m with
    | none => rfl
    | some c => simp [hkind c hnode]

end Kinds

/-! ## Every kind of control -/

theorem ofNode?_of_other (h : ∀ tag ∈ ["input", "button", "textarea", "select"],
    m.tag? ≠ some tag) : ofNode? m = none := by
  unfold ofNode?
  split
  · next ht => exact absurd ht (h _ (by decide))
  · next ht => exact absurd ht (h _ (by decide))
  · next ht => exact absurd ht (h _ (by decide))
  · next ht => exact absurd ht (h _ (by decide))
  · rfl

theorem agrees_other (h : isControl m = false) (hu : IsUsual m) :
    Agrees charset direction barred m later := by
  have hnot : ∀ tag ∈ ["input", "button", "textarea", "select"], isHtml tag m = false := by
    simpa [isControl] using h
  have hinput : isHtml "input" m = false := hnot _ (by decide)
  have hbutton : isHtml "button" m = false := hnot _ (by decide)
  have htextarea : isHtml "textarea" m = false := hnot _ (by decide)
  have hselect : isHtml "select" m = false := hnot _ (by decide)
  have hnone : ofNode? m = none := by
    apply ofNode?_of_other
    intro tag htag hm
    have hhtml := hu.vocabulary tag htag hm
    rw [hnot tag htag] at hhtml
    cases hhtml
  constructor
  · intro isLate
    have hempty : entriesOf charset direction m later = [] := by
      simp [entriesOf, values, tellsDirection, isBox, isInput, hinput, hbutton, htextarea, hselect]
    simp [hnone, hempty]
  · simp [hnone, isSubmitButton, isInput, hinput, hbutton]

/-- A box that is marked stays checked where it is the only one of its group. -/
theorem isChecked_eq
    (halone : isCheckedRadio (own m "name") m → later.any (isCheckedRadio (own m "name")) = false) :
    isChecked m later = m.hasAttribute "checked" := by
  cases hchecked : m.hasAttribute "checked" with
  | false => simp [isChecked, hchecked]
  | true =>
    cases hradio : isInput "radio" m with
    | false => simp [isChecked, hchecked, hradio]
    | true =>
      have hlast := halone (by simp [isCheckedRadio, hradio, hchecked])
      rw [isChecked, hchecked, hlast]
      simp

section Input
variable (htag : m.tag? = some "input") (hu : IsUsual m)
include htag hu

theorem isInput_eq (s : String) : isInput s m = decide (inputState m = s) := by
  simp [isInput, hu.vocabulary _ (by decide) htag]

theorem inputState_ne_image : inputState m ≠ "image" := by
  intro himage
  exact absurd (by rw [himage]; decide) (hu.input (hu.vocabulary _ (by decide) htag))

theorem isButton_input : isButton m =
    decide (inputState m = "submit" ∨ inputState m = "reset" ∨ inputState m = "button") := by
  have hbutton : isHtml "button" m = false := isHtml_of_tag_ne htag (by decide)
  simp [isButton, isInput_eq htag hu, hbutton, inputState_ne_image htag hu]

theorem isSubmitButton_input : isSubmitButton m = decide (inputState m = "submit") := by
  have hbutton : isHtml "button" m = false := isHtml_of_tag_ne htag (by decide)
  simp [isSubmitButton, isInput_eq htag hu, hbutton, inputState_ne_image htag hu]

theorem valueOf_input (hp : IsPlain barred m) : valueOf charset m = own m "value" := by
  have hinput : isHtml "input" m = true := hu.vocabulary _ (by decide) htag
  have htextarea : isHtml "textarea" m = false := isHtml_of_tag_ne htag (by decide)
  have hnamed : ¬ (isInput "hidden" m = true ∧ SameButCase (own m "name") "_charset_") :=
    fun h => hp.charset h.1 h.2
  rw [valueOf, htextarea, hp.line hinput]
  simp [hnamed, hinput]

/-- The values of an input go by its type. -/
theorem values_input (hp : IsPlain barred m) (later : List Node) : values charset m later =
    if inputState m = "file" then []
    else if inputState m = "checkbox" ∨ inputState m = "radio" then
      if isChecked m later then [(m.attribute? "value").getD "on"] else []
    else [own m "value"] := by
  have hinput : isHtml "input" m = true := hu.vocabulary _ (by decide) htag
  have hselect : isHtml "select" m = false := isHtml_of_tag_ne htag (by decide)
  have hstate := isInput_eq htag hu
  have hbox : isBox m = decide (inputState m = "checkbox" ∨ inputState m = "radio") := by
    simp [isBox, hstate]
  rw [values, hselect, if_neg (by decide), hbox, hstate, valueOf_input htag hu hp]
  by_cases hfile : inputState m = "file"
  · simp [hfile]
  · simp [hfile, hinput]

/-- A checked box has a value that is not empty, or none. -/
theorem boxValue_eq (hp : IsPlain barred m)
    (hbox : inputState m = "checkbox" ∨ inputState m = "radio")
    (hchecked : m.hasAttribute "checked" = true) :
    (if own m "value" = "" then "on" else own m "value") = (m.attribute? "value").getD "on" := by
  have hne := hp.box (by simpa [isBox, isInput_eq htag hu] using hbox) hchecked
  unfold own
  cases hattribute : m.attribute? "value" with
  | none => rfl
  | some v =>
    have hv : v ≠ "" := fun h => hne (by rw [hattribute, h])
    simp [hv]

theorem agrees_input (hp : IsPlain barred m)
    (halone : isCheckedRadio (own m "name") m → later.any (isCheckedRadio (own m "name")) = false) :
    Agrees charset direction barred m later := by
  have hm : isControl m = true := by simp [isControl, hu.vocabulary _ (by decide) htag]
  have hnode : ofNode? m = ofInput? m := by simp [ofNode?, htag]
  have himage := inputState_ne_image htag hu
  by_cases hsubmit : inputState m = "submit"
  · apply Agrees.of_submit hp hm
    · simp [isButton_input htag hu, hsubmit]
    · simp [isSubmitButton_input htag hu, hsubmit]
    · rw [hnode, ofInput?_eq, if_pos (.inl hsubmit)]
    · simp [values_input htag hu hp, hsubmit]
  by_cases hidle : inputState m = "reset" ∨ inputState m = "button"
  · apply Agrees.of_idle hp hm
    · simp [isButton_input htag hu, hidle]
    · simp [isSubmitButton_input htag hu, hsubmit]
    · rw [hnode, ofInput?_eq, if_neg (not_or.mpr ⟨hsubmit, himage⟩), if_pos hidle]
  have hread := ofInput?_eq m
  rw [if_neg (not_or.mpr ⟨hsubmit, himage⟩), if_neg hidle, ← hnode] at hread
  have hsent (hkind : ∀ c ∈ ofNode? m, c.kind ≠ .submit)
      (hvalues : (ofNode? m).toList.flatMap sentOf =
        if own m "name" = "" then [] else (values charset m later).map (own m "name", ·)) :
      Agrees charset direction barred m later := by
    apply Agrees.of_field hp hm ?_ ?_ hkind hvalues
    · simp [isButton_input htag hu, hsubmit, hidle]
    · simp [isSubmitButton_input htag hu, hsubmit]
  rw [hread, values_input htag hu hp, isChecked_eq halone] at hsent
  by_cases hname : own m "name" = ""
  · apply hsent <;> simp [hname]
  by_cases hfile : inputState m = "file"
  · apply hsent <;> simp [hname, hfile, sentOf]
  by_cases hbox : inputState m = "checkbox" ∨ inputState m = "radio"
  · by_cases hchecked : m.hasAttribute "checked" = true
    · rw [boxValue_eq htag hu hp hbox hchecked] at hsent
      apply hsent <;> simp [hname, hfile, hbox, hchecked, sentOf]
    · apply hsent <;> simp [hname, hfile, hbox, hchecked]
  · apply hsent <;> simp [hname, hfile, hbox, sentOf]

end Input

theorem agrees_button (htag : m.tag? = some "button") (hu : IsUsual m) (hp : IsPlain barred m) :
    Agrees charset direction barred m later := by
  have hbutton : isHtml "button" m = true := hu.vocabulary _ (by decide) htag
  have hinput : isHtml "input" m = false := isHtml_of_tag_ne htag (by decide)
  have htextarea : isHtml "textarea" m = false := isHtml_of_tag_ne htag (by decide)
  have hselect : isHtml "select" m = false := isHtml_of_tag_ne htag (by decide)
  have hm : isControl m = true := by simp [isControl, hbutton]
  have hisButton : isButton m = true := by simp [isButton, hbutton]
  have hnode : ofNode? m = ofButton? m := by simp [ofNode?, htag]
  by_cases hsubmit : buttonType m = "submit"
  · apply Agrees.of_submit hp hm hisButton
    · simp [isSubmitButton, hbutton, hsubmit]
    · rw [hnode, ofButton?]
      exact if_pos hsubmit
    · simp [values, valueOf, isBox, isInput, hbutton, hinput, htextarea, hselect]
  · apply Agrees.of_idle hp hm hisButton
    · have htype := hp.button hbutton
      simp only [List.mem_cons, hsubmit, List.not_mem_nil, or_false, false_or] at htype
      simp [isSubmitButton, isInput, hinput, htype]
    · rw [hnode, ofButton?]
      exact if_neg hsubmit

theorem joinLineEnds_eq_self {s : List Char} (h : '\r' ∉ s) : Token.joinLineEnds s = s := by
  induction s with
  | nil => rfl
  | cons c s ih =>
    obtain ⟨hc, hs⟩ := not_or.mp (mt List.mem_cons.mpr h)
    rw [Token.joinLineEnds, ih hs]
    · rintro - rfl
      exact absurd rfl hc
    · rintro rfl
      exact absurd rfl hc

theorem agrees_textarea (htag : m.tag? = some "textarea") (hu : IsUsual m)
    (hp : IsPlain barred m) : Agrees charset direction barred m later := by
  have htextarea : isHtml "textarea" m = true := hu.vocabulary _ (by decide) htag
  have hinput : isHtml "input" m = false := isHtml_of_tag_ne htag (by decide)
  have hbutton : isHtml "button" m = false := isHtml_of_tag_ne htag (by decide)
  have hselect : isHtml "select" m = false := isHtml_of_tag_ne htag (by decide)
  have hm : isControl m = true := by simp [isControl, htextarea]
  have hnode : ofNode? m = ofTextarea? m := by simp [ofNode?, htag]
  have hvalues : values charset m later = [String.ofList m.textContent] := by
    simp [values, valueOf, isBox, isInput, hinput, htextarea, hselect,
      joinLineEnds_eq_self (hp.lines htextarea)]
  apply Agrees.of_field hp hm
  · simp [isButton, isInput, hinput, hbutton]
  · simp [isSubmitButton, isInput, hinput, hbutton]
  · intro c hc
    rw [hnode, ofTextarea?] at hc
    split at hc
    · cases hc
    · obtain rfl := Option.some.inj hc
      exact nofun
  · rw [hnode, ofTextarea?, hvalues]
    split
    · rfl
    · next hname => simp [sentOf, hname]

/-! ## Drop-down lists -/

theorem tag?_of_isText (h : isText m = true) : m.tag? = none := by
  cases m with
  | element name attributes children => cases h
  | text content => rfl

theorem descendants_of_isText (h : isText m = true) : m.descendants = [] := by
  cases m with
  | element name attributes children => cases h
  | text content => rfl

theorem filter_option_texts {ns : List Node} (h : ns.all isText = true) :
    (Node.forest ns).filter (·.tag? = some "option") = [] := by
  induction ns with
  | nil => rfl
  | cons n ns ih =>
    obtain ⟨hn, hns⟩ := Bool.and_eq_true_iff.mp (List.all_cons.symm.trans h)
    rw [Node.forest, descendants_of_isText hn, List.nil_append,
      List.filter_cons_of_neg (by simp [tag?_of_isText hn]), ih hns]

theorem filter_option_option (h : isOption m = true) :
    (m :: m.descendants).filter (·.tag? = some "option") = [m] := by
  obtain ⟨hoption, htexts⟩ := Bool.and_eq_true_iff.mp h
  rw [Node.descendants_eq, List.filter_cons_of_pos (by simp [tag?_of_isHtml hoption]),
    filter_option_texts htexts]

theorem filter_option_items {ns : List Node} (h : ∀ o ∈ ns, isText o ∨ isOption o) :
    (Node.forest ns).filter (·.tag? = some "option") = ns.filter (isHtml "option") := by
  induction ns with
  | nil => rfl
  | cons n ns ih =>
    obtain ⟨hn, hns⟩ := List.forall_mem_cons.mp h
    rw [Node.forest, ← List.cons_append, List.filter_append, ih hns]
    rcases hn with hn | hn
    · have hother : isHtml "option" n = false := by
        rw [Bool.eq_false_iff]
        intro hoption
        have htag := tag?_of_isHtml hoption
        rw [tag?_of_isText hn] at htag
        cases htag
      rw [descendants_of_isText hn, List.filter_cons_of_neg (by simp [tag?_of_isText hn]),
        List.filter_cons_of_neg (by simp [hother])]
      rfl
    · have hoption : isHtml "option" n = true := (Bool.and_eq_true_iff.mp hn).1
      rw [filter_option_option hn, List.filter_cons_of_pos hoption]
      rfl

theorem filter_option_parts {ns : List Node} (h : ∀ c ∈ ns, isText c ∨ isOption c ∨ isGroup c) :
    (Node.forest ns).filter (·.tag? = some "option") = (ns.flatMap optionsAt).map (·.2) := by
  induction ns with
  | nil => rfl
  | cons n ns ih =>
    obtain ⟨hn, hns⟩ := List.forall_mem_cons.mp h
    rw [Node.forest, ← List.cons_append, List.filter_append, ih hns, List.flatMap_cons,
      List.map_append]
    congr 1
    rcases hn with hn | hn | hn
    · have hother (tag : String) : isHtml tag n = false := by
        rw [Bool.eq_false_iff]
        intro hhtml
        have htag := tag?_of_isHtml hhtml
        rw [tag?_of_isText hn] at htag
        cases htag
      rw [descendants_of_isText hn, List.filter_cons_of_neg (by simp [tag?_of_isText hn])]
      simp [optionsAt, hother]
    · have hoption : isHtml "option" n = true := (Bool.and_eq_true_iff.mp hn).1
      rw [filter_option_option hn, optionsAt, if_pos hoption]
      rfl
    · obtain ⟨hgroup, hitems⟩ := Bool.and_eq_true_iff.mp hn
      have htag := tag?_of_isHtml hgroup
      have hoption : isHtml "option" n = false := isHtml_of_tag_ne htag (by decide)
      rw [Node.descendants_eq, List.filter_cons_of_neg (by simp [htag]),
        filter_option_items (by simpa using hitems), optionsAt, hoption, hgroup]
      simp [Function.comp_def]

/-- All options in a drop-down list stand where a list has its options. -/
theorem options_eq (h : IsDropDown m) : options m = (optionsOf m).map (·.2) := by
  rw [options, Node.descendants_eq, filter_option_parts h.parts, optionsOf]

theorem chosen?_eq (h : IsDropDown m) : chosen? m = (firstMarked? m).map (·.2) := by
  rw [chosen?, options_eq h, firstMarked?, List.find?_map, List.head?_map, Option.map_or]
  rfl

/-- The first option that is marked is the last one, and the first of all may be selected. -/
theorem selected?_eq (hp : IsPlain barred m) (hselect : isHtml "select" m = true) :
    selected? m = firstMarked? m := by
  have hone := hp.marked hselect
  have hchosen := hp.chosen hselect
  unfold selected? firstMarked? at *
  rw [← List.head?_filter (p := fun o : Bool × Node => o.2.hasAttribute "selected")] at hchosen ⊢
  cases hmarked : (optionsOf m).filter (·.2.hasAttribute "selected") with
  | nil =>
    rw [hmarked] at hchosen
    cases hoptions : optionsOf m with
    | nil => rfl
    | cons o os =>
      have henabled : o.1 = false := (hchosen o (by simp [hoptions])).1
      simp [henabled]
  | cons o os =>
    rw [hmarked] at hone
    obtain rfl : os = [] := List.length_eq_zero_iff.mp (by simpa using hone)
    rfl

theorem agrees_select (htag : m.tag? = some "select") (hu : IsUsual m)
    (hp : IsPlain barred m) : Agrees charset direction barred m later := by
  have hselect : isHtml "select" m = true := hu.vocabulary _ (by decide) htag
  have hinput : isHtml "input" m = false := isHtml_of_tag_ne htag (by decide)
  have hbutton : isHtml "button" m = false := isHtml_of_tag_ne htag (by decide)
  have hm : isControl m = true := by simp [isControl, hselect]
  have hnode : ofNode? m = ofSelect? m := by simp [ofNode?, htag]
  have hvalues : values charset m later =
      (firstMarked? m).toList.map fun o => optionValue o.2 := by
    rw [values, if_pos hselect, selected?_eq hp hselect]
    cases hfirst : firstMarked? m with
    | none => rfl
    | some o =>
      obtain ⟨henabled, hblank⟩ := hp.chosen hselect o hfirst
      have hvalue : valueOfOption o.2 = optionValue o.2 := by
        unfold valueOfOption optionValue
        cases hattribute : o.2.attribute? "value" with
        | none => rw [Option.getD_none, Option.getD_none, joinWith_words (hblank hattribute)]
        | some v => rfl
      simp [henabled, hvalue]
  apply Agrees.of_field hp hm
  · simp [isButton, isInput, hinput, hbutton]
  · simp [isSubmitButton, isInput, hinput, hbutton]
  · intro c hc
    rw [hnode, ofSelect?] at hc
    split at hc
    · cases hc
    · obtain ⟨o, -, rfl⟩ := Option.map_eq_some_iff.mp hc
      exact nofun
  · rw [hnode, ofSelect?, hvalues, chosen?_eq (hu.select hselect)]
    split
    · rfl
    · next hname =>
      cases firstMarked? m with
      | none => rfl
      | some o => simp [sentOf, hname]

/-! ## The whole form -/

theorem agrees (hu : IsUsual m) (hp : IsPlain barred m)
    (halone : isCheckedRadio (own m "name") m → later.any (isCheckedRadio (own m "name")) = false) :
    Agrees charset direction barred m later := by
  cases hm : isControl m with
  | false => exact agrees_other hm hu
  | true =>
    simp only [isControl, List.any_cons, List.any_nil, Bool.or_false, Bool.or_eq_true] at hm
    rcases hm with h | h | h | h
    · exact agrees_input (tag?_of_isHtml h) hu hp halone
    · exact agrees_button (tag?_of_isHtml h) hu hp
    · exact agrees_textarea (tag?_of_isHtml h) hu hp
    · exact agrees_select (tag?_of_isHtml h) hu hp

theorem entriesFrom_eq {es : List (Bool × Node)} (hu : ∀ e ∈ es, IsUsual e.2)
    (hp : ∀ e ∈ es, IsPlain e.1 e.2) (hgroups : GroupsSingle (es.map (·.2))) (isLate : Bool) :
    entriesFrom charset direction isLate es =
      (if isLate then ((es.map (·.2)).filterMap ofNode?).filter (·.kind ≠ .submit)
        else oneSubmit ((es.map (·.2)).filterMap ofNode?)).flatMap sentOf := by
  induction es generalizing isLate with
  | nil => cases isLate <;> rfl
  | cons e es ih =>
    obtain ⟨barred, m⟩ := e
    obtain ⟨hum, hues⟩ := List.forall_mem_cons.mp hu
    obtain ⟨hpm, hpes⟩ := List.forall_mem_cons.mp hp
    obtain ⟨hfirst, hrest⟩ := List.pairwise_cons.mp hgroups
    have halone : isCheckedRadio (own m "name") m →
        (es.map (·.2)).any (isCheckedRadio (own m "name")) = false := by
      intro hm
      rw [List.any_eq_false]
      intro r hr hradio
      exact hfirst r hr ⟨hm, hradio⟩
    have hagrees : Agrees charset direction barred m (es.map (·.2)) := agrees hum hpm halone
    rw [entriesFrom, hagrees.entries, hagrees.submits, ih hues hpes hrest]
    cases hnode : ofNode? m with
    | none => simp [hnode]
    | some c =>
      cases isLate with
      | true => by_cases hc : c.kind = .submit <;> simp [hnode, sentUnlessLate, hc]
      | false =>
        by_cases hc : c.kind = .submit <;> simp [hnode, sentUnlessLate, oneSubmit, hc]

end PluginRelease.Form.EntryList
