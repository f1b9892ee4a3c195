import PluginRelease.Html.Draft.Body
import PluginRelease.Proofs.Html.Draft.Insertion

/-!
The ways to close elements. What is closed is what was opened last, up to an element that is looked
for; neither the root element is closed this way, nor what the mode takes for granted.
-/
namespace PluginRelease.Html.Draft
variable {d e : Draft} {i j k p x : Nat} {a l : List Nat} {tag : String} {tags : List String}
  {q r : ElementName → Bool} {s : ElementName.Scope}

/-! ## Dropping what was opened last -/

theorem is_congr (h : e.entries = d.entries) : e.is = d.is := by
  funext r i
  rw [is, name?, content?_congr h]
  rfl

theorem IsIn.congr (h : d.IsIn tags i) (he : e.entries = d.entries) : e.IsIn tags i := by
  obtain ⟨tag, htag, hn⟩ := h
  refine ⟨tag, htag, ?_⟩
  rw [name?, content?_congr he]
  exact hn

section
variable (h : Sound d)
include h

theorem Sound.drop (hl : d.stack = a ++ l) (hne : l ≠ [])
    (ha : ∀ i ∈ a, ¬ d.IsIn (anchors d.mode) i) : Leads d { d with stack := l } := by
  have he : Alike d { d with stack := l } := .of_entries h.linked rfl rfl
  refine h.closes he hl hne rfl (fun _ hx => hx) (h.mode.of_alike he fun i hi hin => ?_)
    fun _ hm => hm
  rw [hl] at hi
  exact (List.mem_append.mp hi).resolve_left fun hi => ha i hi hin

theorem Sound.ne_nil_of_stack (hl : d.stack = a ++ x :: l) (hx : ¬ d.IsIn ["html"] x) :
    l ≠ [] := by
  rintro rfl
  have hbottom := h.bottom_of_append hl (by simp)
  exact hx ((h.grounded.html_iff x).mpr (Option.some.inj hbottom))

theorem Sound.drop_through (hl : d.stack = a ++ x :: l)
    (ha : ∀ i ∈ a, ¬ d.IsIn (anchors d.mode) i) (hx : ¬ d.IsIn ("html" :: anchors d.mode) x) :
    Leads d { d with stack := l } := by
  refine h.drop (a := a ++ [x]) (by simp [hl])
    (h.ne_nil_of_stack hl fun hhtml => hx (hhtml.mono (by simp))) fun i hi => ?_
  rcases List.mem_append.mp hi with hi | hi
  · exact ha i hi
  · obtain rfl := List.mem_singleton.mp hi
    exact fun hin => hx (hin.mono fun tag htag => .tail _ htag)

end

theorem stack_popTo (d : Draft) (q : ElementName → Bool) :
    d.stack = d.stack.takeWhile (!d.is q ·) ++ (d.popTo q).stack :=
  List.takeWhile_append_dropWhile.symm

theorem Sound.popTo (h : Sound d)
    (hq : ∀ i, d.IsIn ("html" :: anchors d.mode) i → d.is q i = true) : Leads d (d.popTo q) := by
  have hdropped (i : Nat) (hi : i ∈ d.stack.takeWhile (!d.is q ·)) :
      ¬ d.IsIn ("html" :: anchors d.mode) i := by
    intro hin
    have hfalse := List.all_eq_true.mp List.all_takeWhile i hi
    rw [hq i hin] at hfalse
    cases hfalse
  refine h.drop (stack_popTo d q) (fun hnil => ?_) fun i hi hin =>
    hdropped i hi (hin.mono fun tag htag => .tail _ htag)
  have hall := stack_popTo d q
  have hone := List.mem_of_getLast? h.bottom
  change d.stack = _ ++ d.stack.dropWhile _ at hall
  rw [hnil, List.append_nil] at hall
  rw [hall] at hone
  exact hdropped 1 hone (h.isIn_one.mono (by simp))

theorem is_not_isOneOf_iff (hi : (d.name? i).isSome) :
    d.is (!·.isOneOf tags) i = true ↔ ¬ d.IsIn tags i := by
  obtain ⟨n, hn⟩ := Option.isSome_iff_exists.mp hi
  rw [is, hn, ← is_isOneOf_iff, is, hn]
  simp

theorem Sound.implyEnds (h : Sound d) (htags : ∀ tag ∈ tags, tag ∉ pillars) :
    Leads d (d.implyEnds tags) := by
  refine h.popTo fun i hi => (is_not_isOneOf_iff hi.isSome).mpr fun hin => ?_
  refine hin.not_of_disjoint htags (hi.mono fun tag htag => ?_)
  rcases List.mem_cons.mp htag with rfl | htag
  · decide
  · exact anchors_subset_pillars _ tag htag

/-! ## What is in scope -/

theorem scopeContains_iff {r : Nat → Bool} : d.scopeContains s r l = true ↔
    ∃ a x b, l = a ++ x :: b ∧ r x = true ∧
      ∀ i ∈ a, r i = false ∧ d.is (·.bounds s) i = false := by
  induction l with
  | nil => simp [scopeContains]
  | cons i l ih =>
    rw [scopeContains, Bool.or_eq_true, Bool.and_eq_true, ih]
    constructor
    · rintro (hi | ⟨hi, a, x, b, rfl, hx, ha⟩)
      · exact ⟨[], i, l, rfl, hi, by simp⟩
      · cases hr : r i with
        | true => exact ⟨[], i, _, rfl, hr, by simp⟩
        | false =>
          refine ⟨i :: a, x, b, rfl, hx, fun j hj => ?_⟩
          rcases List.mem_cons.mp hj with rfl | hj
          · exact ⟨hr, by simpa using hi⟩
          · exact ha j hj
    · rintro ⟨a, x, b, hl, hx, ha⟩
      cases a with
      | nil =>
        obtain ⟨rfl, rfl⟩ := List.cons.inj hl
        exact .inl hx
      | cons j a =>
        obtain ⟨rfl, rfl⟩ := List.cons.inj hl
        refine .inr ⟨by simpa using (ha i (.head _)).2, a, x, b, rfl, hx, fun j hj => ?_⟩
        exact ha j (.tail _ hj)

/-- Elements that no search for an open element of running text goes beyond. -/
def fences : List String :=
  ["html", "template", "table"] ++ ElementName.cells ++ ElementName.sections

/-- The rules of running text look within at least these bounds. -/
def scopes : List ElementName.Scope := [.default, .listItem, .button]

theorem bounds_of_scopes (hs : s ∈ scopes)
    (h : d.IsIn (["html", "template", "table"] ++ ElementName.cells) i) :
    d.is (·.bounds s) i = true := by
  obtain ⟨tag, htag, hn⟩ := h
  refine is_iff.mpr ⟨_, hn, ?_⟩
  have hall : ∀ s ∈ scopes, ∀ tag ∈ ["html", "template", "table"] ++ ElementName.cells,
      (ElementName.html tag).bounds s = true := by decide
  exact hall s hs tag htag

/-- Between what is in scope and what was opened last stands no fence. -/
theorem Sound.exists_in_scope (h : Sound d) (hs : s ∈ scopes) {r : Nat → Bool}
    (hscope : d.scopeContains s r d.stack = true)
    (hr : ∀ i, r i = true → ¬ d.IsIn sectionHolders i) :
    ∃ a x l, d.stack = a ++ x :: l ∧ r x = true ∧
      ∀ i ∈ a, r i = false ∧ ¬ d.IsIn fences i := by
  obtain ⟨a, x, l, hl, hx, ha⟩ := scopeContains_iff.mp hscope
  have hbound {i : Nat} (hi : i ∈ a) :
      ¬ d.IsIn (["html", "template", "table"] ++ ElementName.cells) i := by
    intro hin
    have hfalse := (ha i hi).2
    rw [bounds_of_scopes hs hin] at hfalse
    cases hfalse
  refine ⟨a, x, l, hl, hx, fun i hi => ⟨(ha i hi).1, fun hin => ?_⟩⟩
  rw [fences, isIn_append] at hin
  rcases hin with hin | hsection
  · exact hbound hi hin
  · -- A section stands right in a table or a template, which would end the search.
    obtain ⟨b, c, rfl⟩ := List.append_of_mem hi
    have hstacked := h.stacked
    rw [hl, List.append_assoc, List.cons_append] at hstacked
    cases c with
    | nil => exact hr x hx (hstacked.stands.tableSection hsection x rfl)
    | cons j c =>
      refine hbound (i := j) (by simp) ?_
      exact (hstacked.stands.tableSection hsection j rfl).mono (by decide)

/-- In a mode of running text all that must be open is a fence. -/
def Flows (d : Draft) : Prop := ∀ tag ∈ anchors d.mode, tag ∈ fences

/-- What is opened after an element in scope is closed with it. -/
theorem Sound.close_in_scope (h : Sound d) (hflows : Flows d) (hs : s ∈ scopes) {r : Nat → Bool}
    (hscope : d.scopeContains s r d.stack = true)
    (hr : ∀ i, r i = true → ¬ d.IsIn fences i) :
    ∃ a x l, d.stack = a ++ x :: l ∧ r x = true ∧ (∀ i ∈ a, r i = false) ∧
      Leads d { d with stack := l } := by
  obtain ⟨a, x, l, hl, hx, ha⟩ :=
    h.exists_in_scope hs hscope fun i hi hin => hr i hi (hin.mono (by decide))
  refine ⟨a, x, l, hl, hx, fun i hi => (ha i hi).1, h.drop_through hl (fun i hi hin => ?_) fun hin =>
    hr x hx (hin.mono fun tag htag => ?_)⟩
  · exact (ha i hi).2 (hin.mono hflows)
  · rcases List.mem_cons.mp htag with rfl | htag
    · decide
    · exact hflows tag htag

/-! ## Popping through an element -/

theorem dropWhile_append_cons {α : Type} {r : α → Bool} {a l : List α} {x : α}
    (ha : ∀ i ∈ a, r i = true) (hx : r x = false) : (a ++ x :: l).dropWhile r = x :: l := by
  rw [List.dropWhile_append_of_pos ha, List.dropWhile_cons_of_neg (by simp [hx])]

theorem exists_dropWhile_append {α : Type} (r : α → Bool) {a l : List α} {x : α}
    (hx : r x = false) : ∃ b, (a ++ x :: l).dropWhile r = b ++ x :: l ∧ ∀ i ∈ b, i ∈ a := by
  induction a with
  | nil => exact ⟨[], List.dropWhile_cons_of_neg (by simp [hx]), by simp⟩
  | cons i a ih =>
    rw [List.cons_append, List.dropWhile_cons]
    split
    · obtain ⟨b, hb, hsub⟩ := ih
      exact ⟨b, hb, fun j hj => .tail _ (hsub j hj)⟩
    · exact ⟨i :: a, rfl, fun j hj => hj⟩

theorem popThrough_eq (hl : d.stack = a ++ x :: l) (hx : d.is r x = true)
    (ha : ∀ i ∈ a, d.is r i = false) : d.popThrough r = { d with stack := l } := by
  rw [popThrough, hl, dropWhile_append_cons (by simpa using ha) (by simp [hx]), List.tail_cons]

theorem popThrough_popTo_eq (hl : d.stack = a ++ x :: l) (hx : d.is r x = true)
    (ha : ∀ i ∈ a, d.is r i = false) (hq : d.is q x = true) :
    (d.popTo q).popThrough r = { d with stack := l } := by
  obtain ⟨b, hb, hsub⟩ := exists_dropWhile_append (!d.is q ·) (l := l) (a := a) (x := x)
    (by simp [hq])
  have hstack : (d.popTo q).stack = b ++ x :: l := by
    rw [Draft.popTo, hl]
    exact hb
  rw [popThrough_eq hstack hx fun i hi => ha i (hsub i hi)]
  rfl

theorem popThroughTag_implyEnds_eq (hl : d.stack = a ++ x :: l) (hx : d.isTag tag x = true)
    (ha : ∀ i ∈ a, d.isTag tag i = false) (htags : tag ∉ tags) :
    (d.implyEnds tags).popThroughTag tag = { d with stack := l } := by
  refine popThrough_popTo_eq hl hx ha ((is_not_isOneOf_iff ?_).mpr fun hin => ?_)
  · exact (isTag_iff_isIn.mp hx).isSome
  · exact htags ((isIn_iff_of_name? (isTag_iff.mp hx)).mp hin)

theorem not_mem_impliedEnds_except (tag : String) :
    tag ∉ ElementName.impliedEnds.filter (· ≠ tag) := by
  simp

theorem Sound.popThroughTag_implyEnds (h : Sound d) (hflows : Flows d) (hs : s ∈ scopes)
    (hscope : d.hasTag s tag = true) (htags : tag ∉ tags) (htag : tag ∉ fences) :
    Leads d ((d.implyEnds tags).popThroughTag tag) := by
  obtain ⟨a, x, l, hl, hx, ha, hleads⟩ := h.close_in_scope hflows hs hscope fun i hi hin =>
    htag ((isIn_iff_of_name? (isTag_iff.mp hi)).mp hin)
  rwa [popThroughTag_implyEnds_eq hl hx ha htags]

end PluginRelease.Html.Draft
