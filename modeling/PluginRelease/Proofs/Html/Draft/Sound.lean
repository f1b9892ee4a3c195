import PluginRelease.Html.Draft.Head
import PluginRelease.Proofs.Html.Draft.Listing

/-!
What holds of every draft in the body of a page. The open elements stand in one another: none is
above one that was opened before it, and each but a template stands in the nearest form or template
that is open around it. A form that is no longer open, but still the form that
controls belong to, has been closed with all inside it.
-/
namespace PluginRelease.Html.Draft
variable {d e : Draft} {i j k p s t : Nat} {l a b : List Nat} {tag : String} {tags : List String}

/-! ## Names -/

@[simp] theorem html_inj {other : String} : ElementName.html tag = .html other ↔ tag = other := by
  simp [ElementName.html]

theorem exists_content (h : (d.name? i).isSome) :
    ∃ n attributes, d.content? i = some (.element n attributes) := by
  obtain ⟨n, hn⟩ := Option.isSome_iff_exists.mp h
  exact ⟨n, name?_eq_some_iff.mp hn⟩

/-- No element is the root of something. -/
theorem not_root_of_isSome (h : (d.name? i).isSome) : d.content? i ≠ some .root := by
  obtain ⟨n, attributes, hc⟩ := exists_content h
  simp [hc]

theorem is_iff {r : ElementName → Bool} :
    d.is r i = true ↔ ∃ n, d.name? i = some n ∧ r n = true := by
  rw [is, Option.any_eq_true_iff_get]
  cases d.name? i <;> simp

theorem isTag_iff : d.isTag tag i = true ↔ d.name? i = some (.html tag) := by
  rw [isTag, is_iff]
  simp

theorem isOneOf_iff {n : ElementName} : n.isOneOf tags = true ↔ ∃ tag ∈ tags, n = .html tag := by
  obtain ⟨space, tag⟩ := n
  simp only [ElementName.isOneOf, ElementName.html, Bool.and_eq_true, decide_eq_true_eq,
    List.contains_iff_mem, ElementName.mk.injEq]
  constructor
  · rintro ⟨rfl, h⟩
    exact ⟨tag, h, rfl, rfl⟩
  · rintro ⟨_, h, rfl, rfl⟩
    exact ⟨rfl, h⟩

/-- An element with one of some tags. -/
def IsIn (d : Draft) (tags : List String) (i : Nat) : Prop :=
  ∃ tag ∈ tags, d.name? i = some (.html tag)

theorem is_isOneOf_iff : d.is (·.isOneOf tags) i = true ↔ d.IsIn tags i := by
  rw [is_iff, IsIn]
  constructor
  · rintro ⟨n, hn, htags⟩
    obtain ⟨tag, htag, rfl⟩ := isOneOf_iff.mp htags
    exact ⟨tag, htag, hn⟩
  · rintro ⟨tag, htag, hn⟩
    exact ⟨_, hn, isOneOf_iff.mpr ⟨tag, htag, rfl⟩⟩

theorem IsIn.of_name? (h : d.name? i = some (.html tag)) (htag : tag ∈ tags) : d.IsIn tags i :=
  ⟨tag, htag, h⟩

theorem isIn_iff_of_name? (h : d.name? i = some (.html tag)) : d.IsIn tags i ↔ tag ∈ tags := by
  constructor
  · rintro ⟨tag', htag', h'⟩
    obtain rfl := html_inj.mp (Option.some.inj (h'.symm.trans h))
    exact htag'
  · exact .of_name? h

theorem IsIn.isSome (h : d.IsIn tags i) : (d.name? i).isSome := by
  obtain ⟨tag, -, hn⟩ := h
  simp [hn]

theorem IsIn.not_root (h : d.IsIn tags i) : d.content? i ≠ some .root := not_root_of_isSome h.isSome

/-- Two lists of tags without a common one name different elements. -/
theorem IsIn.not_of_disjoint {other : List String} (h : d.IsIn tags i)
    (hdis : ∀ tag ∈ tags, tag ∉ other) : ¬ d.IsIn other i := by
  obtain ⟨tag, htag, hn⟩ := h
  rw [isIn_iff_of_name? hn]
  exact hdis tag htag

theorem IsIn.mono {other : List String} (h : d.IsIn tags i) (hsub : ∀ tag ∈ tags, tag ∈ other) :
    d.IsIn other i := by
  obtain ⟨tag, htag, hn⟩ := h
  exact ⟨tag, hsub tag htag, hn⟩

theorem isIn_append {other : List String} :
    d.IsIn (tags ++ other) i ↔ d.IsIn tags i ∨ d.IsIn other i := by
  simp only [IsIn, List.mem_append, or_and_right, exists_or]

/-- One tag of a list after the other. -/
theorem isIn_cons_cons {next : String} :
    d.IsIn (tag :: next :: tags) i ↔ d.IsIn [tag] i ∨ d.IsIn (next :: tags) i :=
  @isIn_append d i [tag] (next :: tags)

theorem isTag_iff_isIn : d.isTag tag i = true ↔ d.IsIn [tag] i := by
  rw [isTag_iff, IsIn]
  simp

/-! ## Open elements -/

def rowHolders : List String := ElementName.sections ++ ["template"]

def sectionHolders : List String := ["table", "template", "html"]

/-- Forms, and templates, whose content is out of reach of the forms around them. -/
def IsSolid (d : Draft) (i : Nat) : Prop := d.IsIn ["form", "template"] i

/-- The nearest of some open elements that is a form or a template. -/
inductive Nearest (d : Draft) (k : Nat) : List Nat → Prop
  | here {l : List Nat} : d.IsSolid k → Nearest d k (k :: l)
  | there {i : Nat} {l : List Nat} : ¬ d.IsSolid i → Nearest d k l → Nearest d k (i :: l)

/-- Where the content of an element goes: that of a template goes elsewhere than its children. -/
def ground (d : Draft) (i : Nat) : Nat :=
  if d.isTag "template" i then (d.inside? i).getD i else i

theorem Nearest.mem (h : Nearest d k l) : k ∈ l := by
  induction h with
  | here _ => exact .head _
  | there _ _ ih => exact .tail _ ih

theorem Nearest.isSolid (h : Nearest d k l) : d.IsSolid k := by
  induction h with
  | here hk => exact hk
  | there _ _ ih => exact ih

theorem Nearest.of_append (h : Nearest d k (a ++ l)) : k ∈ a ∨ Nearest d k l := by
  induction a with
  | nil => exact .inr h
  | cons i a ih =>
    cases h with
    | here _ => exact .inl (.head _)
    | there _ h => exact (ih h).imp_left (.tail _)

theorem Nearest.append (ha : ∀ i ∈ a, ¬ d.IsSolid i) (h : Nearest d k l) :
    Nearest d k (a ++ l) := by
  induction a with
  | nil => exact h
  | cons i a ih => exact .there (ha i (.head _)) (ih fun j hj => ha j (.tail _ hj))

theorem Nearest.exists_of_mem (hk : d.IsSolid k) (hmem : k ∈ l) :
    ∃ s, Nearest d s l ∧ (s = k ∨ ∃ l₁ l₂, l = l₁ ++ s :: l₂ ∧ k ∈ l₂) := by
  induction l with
  | nil => cases hmem
  | cons i l ih =>
    by_cases hi : d.IsSolid i
    · refine ⟨i, .here hi, ?_⟩
      rcases List.mem_cons.mp hmem with rfl | hmem
      · exact .inl rfl
      · exact .inr ⟨[], l, rfl, hmem⟩
    · rcases List.mem_cons.mp hmem with rfl | hmem
      · exact absurd hk hi
      · obtain ⟨s, hs, heq | ⟨l₁, l₂, rfl, hkl⟩⟩ := ih hmem
        · exact ⟨s, .there hi hs, .inl heq⟩
        · exact ⟨s, .there hi hs, .inr ⟨i :: l₁, l₂, rfl, hkl⟩⟩

/-- An element that is neither a form nor a template hides none. -/
theorem Nearest.tail (h : Nearest d k (i :: l)) (hi : ¬ d.IsSolid i) : Nearest d k l := by
  cases h with
  | here hk => exact absurd hk hi
  | there _ hk => exact hk

/-- How an open element stands among those that were opened before it. -/
structure Stands (d : Draft) (i : Nat) (l : List Nat) : Prop where
  element : (d.name? i).isSome
  order : ∀ j ∈ l, ¬ Under d i j ∧ ¬ Under d (d.ground i) j
  row : d.IsIn ["tr"] i → ∀ j, l.head? = some j → d.IsIn rowHolders j
  tableSection : d.IsIn ElementName.sections i → ∀ j, l.head? = some j → d.IsIn sectionHolders j
  head : d.IsIn ["head"] i → ∀ j, l.head? = some j → d.IsIn ["html"] j
  within : ¬ d.IsIn ["template"] i → ∀ k, Nearest d k l → Under d (d.ground k) i

/-- Open elements, each of which stands well among those before it. -/
inductive Stacked (d : Draft) : List Nat → Prop
  | nil : Stacked d []
  | cons {i : Nat} {l : List Nat} : Stands d i l → Stacked d l → Stacked d (i :: l)

theorem Stacked.head (h : Stacked d (i :: l)) : Stands d i l := by
  cases h
  assumption

theorem Stacked.tail (h : Stacked d (i :: l)) : Stacked d l := by
  cases h
  assumption

theorem Stacked.drop (h : Stacked d (a ++ l)) : Stacked d l := by
  induction a with
  | nil => exact h
  | cons i a ih => exact ih h.tail

theorem Stacked.stands (h : Stacked d (a ++ i :: l)) : Stands d i l := h.drop.head

theorem Stacked.element (h : Stacked d l) (hi : i ∈ l) : (d.name? i).isSome := by
  obtain ⟨a, b, rfl⟩ := List.append_of_mem hi
  exact h.stands.element

theorem Stacked.lt_of_mem (h : Stacked d l) (hi : i ∈ l) : i < d.entries.size := by
  obtain ⟨n, hn⟩ := Option.isSome_iff_exists.mp (h.element hi)
  exact lt_of_name? hn

theorem Stacked.not_under (h : Stacked d (a ++ l)) (hi : i ∈ a) (hj : j ∈ l) : ¬ Under d i j := by
  obtain ⟨a₁, a₂, rfl⟩ := List.append_of_mem hi
  rw [List.append_assoc, List.cons_append] at h
  exact (h.stands.order j (List.mem_append_right _ hj)).1

theorem Stacked.nodup (h : Stacked d l) : l.Nodup := by
  induction h with
  | nil => exact .nil
  | cons hi _ ih => exact List.nodup_cons.mpr ⟨fun hmem => (hi.order _ hmem).1 .refl, ih⟩

theorem ground_of_form (h : d.IsIn ["form"] i) : d.ground i = i := by
  have htemplate : ¬ d.isTag "template" i = true := fun ht =>
    h.not_of_disjoint (by decide) (isTag_iff_isIn.mp ht)
  rw [ground, if_neg htemplate]

theorem isSolid_iff : d.IsSolid i ↔ d.IsIn ["form"] i ∨ d.IsIn ["template"] i :=
  isIn_cons_cons

/-- A form that is open with no template after it is around all that was opened after it. -/
theorem Stacked.exists_nearest (h : Stacked d (a ++ k :: b)) (hk : d.IsIn ["form"] k)
    (ha : ∀ i ∈ a, ¬ d.IsIn ["template"] i) :
    ∃ s, d.IsIn ["form"] s ∧ Nearest d s (a ++ k :: b) ∧ Under d k s := by
  induction a with
  | nil => exact ⟨k, hk, .here (isSolid_iff.mpr (.inl hk)), .refl⟩
  | cons i a ih =>
    obtain ⟨s, hform, hs, hks⟩ := ih h.tail fun j hj => ha j (.tail _ hj)
    by_cases hi : d.IsIn ["form"] i
    · have hsi := h.head.within (ha i (.head _)) s hs
      rw [ground_of_form hform] at hsi
      exact ⟨i, hi, .here (isSolid_iff.mpr (.inl hi)), hsi.trans hks⟩
    · refine ⟨s, hform, .there (fun hsolid => ?_) hs, hks⟩
      exact (isSolid_iff.mp hsolid).elim hi (ha i (.head _))

/-- A form is closed with all inside it. -/
def Shut (d : Draft) (k : Nat) : Prop := ∀ s ∈ d.stack, ¬ Under d k s

/-- What is at the bottom is open once. -/
theorem eq_nil_of_bottom (h : (i :: l).Nodup) (hb : (i :: l).getLast? = some i) : l = [] := by
  cases l with
  | nil => rfl
  | cons j l =>
    rw [List.getLast?_cons_cons] at hb
    exact absurd (List.mem_of_getLast? hb) (List.nodup_cons.mp h).1

/-! ## Modes -/

/-- Modes before the head, and those of a text, that a page in its body is in for a while only. -/
def passingModes : List Mode := [.initial, .beforeHtml, .beforeHead, .text, .tableText]

/-- What must be open in a mode, where the rules close it without looking for it, or build on it. -/
def anchors : Mode → List String
  | .head => ["head"]
  | .cell => ElementName.cells
  | .tableBody => ElementName.sections ++ ["template"]
  | .selectInTable => ["select"]
  | .template => ["template"]
  | _ => []

/-- Modes that the content of a template is read in. -/
def contentModes : List Mode := [.template, .table, .columns, .tableBody, .row, .body]

/-- A mode in which tokens of a body are taken, with the open elements that it takes for granted. -/
structure Fits (d : Draft) (m : Mode) : Prop where
  lasting : m ∉ passingModes
  anchored : anchors m ≠ [] → ∃ i ∈ d.stack, d.IsIn (anchors m) i

/-! ## Drafts in the body -/

def formatTags : List String := ElementName.formatting ++ ["a", "nobr"]

/-- The formatting elements are what they are remembered as. -/
def Formatted (d : Draft) : Prop := ∀ i t, some (i, t) ∈ d.formatting →
  d.name? i = some (.html t.name) ∧ t.name ∈ formatTags

/-- The entries of a page with a root element and a head. -/
structure Grounded (d : Draft) : Prop where
  rooted : Rooted d
  inside : ∀ i r, d.inside? i = some r → d.content? r = some .root
  page : d.parent? 1 = some pageRoot
  html_iff : ∀ i, d.IsIn ["html"] i ↔ i = 1
  head : ∃ h, d.head = some h ∧ d.IsIn ["head"] h ∧ d.parent? h = some 1

structure Sound (d : Draft) : Prop where
  grounded : Grounded d
  stacked : Stacked d d.stack
  bottom : d.stack.getLast? = some 1
  formats : Formatted d
  form : ∀ k, d.form = some k → d.IsIn ["form"] k ∧ (k ∈ d.stack ∨ Shut d k)
  mode : Fits d d.mode
  templates : ∀ m ∈ d.templateModes, m ∈ contentModes

section
variable (h : Sound d)
include h

theorem Sound.linked : Linked d := h.grounded.rooted.linked

theorem Sound.lt_of_mem (hi : i ∈ d.stack) : i < d.entries.size := h.stacked.lt_of_mem hi

theorem Sound.isIn_one : d.IsIn ["html"] 1 := (h.grounded.html_iff 1).mpr rfl

theorem Sound.stack_ne_nil : d.stack ≠ [] := by
  intro hnil
  have hbottom := h.bottom
  rw [hnil] at hbottom
  cases hbottom

theorem Sound.bottom_of_append (hl : d.stack = a ++ l) (hne : l ≠ []) : l.getLast? = some 1 := by
  rw [← List.getLast?_append_of_ne_nil a hne, ← hl, h.bottom]

end

/-! ## What lasts -/

/-- To the root element and the body attributes are added. -/
def lastingAttributes (name : ElementName) (attributes : List Attribute) : List Attribute :=
  if name = .html "html" ∨ name = .html "body" then [] else attributes

/-- What of a content lasts: texts grow. -/
def lasting : Content → Content
  | .root => .root
  | .text _ => .text []
  | .element name attributes => .element name (lastingAttributes name attributes)

def lasting? (d : Draft) (i : Nat) : Option Content := (d.content? i).map lasting

theorem lasting?_eq_root_iff : d.lasting? i = some .root ↔ d.content? i = some .root := by
  rw [lasting?, Option.map_eq_some_iff]
  constructor
  · rintro ⟨c, hc, hlasting⟩
    cases c with
    | root => exact hc
    | text s => cases hlasting
    | element name attributes => cases hlasting
  · intro h
    exact ⟨.root, h, rfl⟩

theorem lasting?_eq_text_iff : d.lasting? i = some (.text []) ↔ ∃ s, d.content? i = some (.text s) := by
  rw [lasting?, Option.map_eq_some_iff]
  constructor
  · rintro ⟨c, hc, hlasting⟩
    cases c with
    | root => cases hlasting
    | text s => exact ⟨s, hc⟩
    | element name attributes => cases hlasting
  · rintro ⟨s, hs⟩
    exact ⟨.text s, hs, rfl⟩

theorem name?_eq (d : Draft) (i : Nat) : d.name? i = match d.lasting? i with
    | some (.element n _) => some n
    | _ => none := by
  rw [name?, lasting?]
  cases d.content? i with
  | none => rfl
  | some c =>
    cases c with
    | root => rfl
    | text s => rfl
    | element name attributes => rfl

/-- Other elements keep their attributes. -/
theorem content?_of_lasting {n : ElementName} {attributes : List Attribute}
    (h : e.lasting? i = d.lasting? i) (hn : n ≠ .html "html" ∧ n ≠ .html "body")
    (hd : d.content? i = some (.element n attributes)) :
    e.content? i = some (.element n attributes) := by
  have hd' : d.lasting? i = some (.element n attributes) := by
    rw [lasting?, hd, Option.map_some, lasting, lastingAttributes, if_neg (not_or.mpr hn)]
  rw [hd', lasting?, Option.map_eq_some_iff] at h
  obtain ⟨c, hc, hlasting⟩ := h
  cases c with
  | root => cases hlasting
  | text s => cases hlasting
  | element name own =>
    simp only [lasting, Content.element.injEq] at hlasting
    obtain ⟨rfl, hown⟩ := hlasting
    rw [lastingAttributes, if_neg (not_or.mpr hn)] at hown
    rw [hc, hown]

end PluginRelease.Html.Draft
