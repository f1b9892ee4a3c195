import PluginRelease.Proofs.Html.Draft.Sound

/-!
What the rules for a token may do to a draft. They add entries, open and close elements, and move
only what is open or right below it: so what stands below a closed form stays there, and nothing
else comes to stand there.
-/
namespace PluginRelease.Html.Draft
variable {d e f : Draft} {i j k p s t : Nat} {l a b : List Nat} {tag : String}
  {tags : List String}

/-- The elements that a form sends. -/
def controlTags : List String := ["input", "select", "textarea", "button"]

/-! ## What both have -/

/-- The entries of one draft are entries of another, but for their links. -/
structure Keeps (d e : Draft) : Prop where
  size_le : d.entries.size ≤ e.entries.size
  lasting : ∀ i < d.entries.size, e.lasting? i = d.lasting? i
  inside : ∀ i < d.entries.size, e.inside? i = d.inside? i
  head : e.head = d.head

theorem Keeps.refl (d : Draft) : Keeps d d := ⟨Nat.le_refl _, fun _ _ => rfl, fun _ _ => rfl, rfl⟩

theorem Keeps.trans (h : Keeps d e) (h' : Keeps e f) : Keeps d f where
  size_le := Nat.le_trans h.size_le h'.size_le
  lasting i hi := (h'.lasting i (Nat.lt_of_lt_of_le hi h.size_le)).trans (h.lasting i hi)
  inside i hi := (h'.inside i (Nat.lt_of_lt_of_le hi h.size_le)).trans (h.inside i hi)
  head := h'.head.trans h.head

theorem Keeps.congr (h : Keeps d e) (he : f.entries = e.entries) (hhead : f.head = e.head) :
    Keeps d f where
  size_le := he ▸ h.size_le
  lasting i hi := by
    rw [lasting?, content?_congr he]
    exact h.lasting i hi
  inside i hi := by
    rw [inside?_congr he]
    exact h.inside i hi
  head := hhead.trans h.head

section
variable (h : Keeps d e) (hi : i < d.entries.size)
include h hi

theorem Keeps.name? : e.name? i = d.name? i := by
  rw [name?_eq, name?_eq, h.lasting i hi]

theorem Keeps.isIn_iff : e.IsIn tags i ↔ d.IsIn tags i := by
  simp only [IsIn, h.name? hi]

theorem Keeps.root_iff : e.content? i = some .root ↔ d.content? i = some .root := by
  rw [← lasting?_eq_root_iff, ← lasting?_eq_root_iff, h.lasting i hi]

theorem Keeps.text_iff :
    (∃ s, e.content? i = some (.text s)) ↔ ∃ s, d.content? i = some (.text s) := by
  rw [← lasting?_eq_text_iff, ← lasting?_eq_text_iff, h.lasting i hi]

end

section
variable (h : Keeps d e)
include h

theorem Keeps.ground_eq (hi : i < d.entries.size) : e.ground i = d.ground i := by
  rw [ground, ground, h.inside i hi, isTag, isTag, is, is, h.name? hi]

theorem Keeps.nearest_iff (hl : ∀ j ∈ l, j < d.entries.size) :
    Nearest e k l ↔ Nearest d k l := by
  constructor
  · intro hk
    induction hk with
    | here hk => exact .here ((h.isIn_iff (hl _ (.head _))).mp hk)
    | there hi _ ih =>
      refine .there (fun hsolid => hi ?_) (ih fun j hj => hl j (.tail _ hj))
      exact (h.isIn_iff (hl _ (.head _))).mpr hsolid
  · intro hk
    induction hk with
    | here hk => exact .here ((h.isIn_iff (hl _ (.head _))).mpr hk)
    | there hi _ ih =>
      refine .there (fun hsolid => hi ?_) (ih fun j hj => hl j (.tail _ hj))
      exact (h.isIn_iff (hl _ (.head _))).mp hsolid

/-- Elements that have not been moved stand as before. -/
theorem Keeps.stands (hi : Stands d i l) (hlt : ∀ j ∈ i :: l, j < d.entries.size)
    (hunder : ∀ j ∈ i :: l, ∀ k, Under e k j ↔ Under d k j) : Stands e i l where
  element := by
    rw [h.name? (hlt i (.head _))]
    exact hi.element
  order j hj := by
    rw [h.ground_eq (hlt i (.head _)), hunder j (.tail _ hj), hunder j (.tail _ hj)]
    exact hi.order j hj
  row hrow j hj :=
    (h.isIn_iff (hlt j (.tail _ (List.mem_of_head? hj)))).mpr
      (hi.row ((h.isIn_iff (hlt i (.head _))).mp hrow) j hj)
  tableSection hsection j hj :=
    (h.isIn_iff (hlt j (.tail _ (List.mem_of_head? hj)))).mpr
      (hi.tableSection ((h.isIn_iff (hlt i (.head _))).mp hsection) j hj)
  head hhead j hj :=
    (h.isIn_iff (hlt j (.tail _ (List.mem_of_head? hj)))).mpr
      (hi.head ((h.isIn_iff (hlt i (.head _))).mp hhead) j hj)
  within htemplate k hk := by
    rw [h.nearest_iff fun j hj => hlt j (.tail _ hj)] at hk
    rw [h.ground_eq (hlt k (.tail _ hk.mem)), hunder i (.head _)]
    exact hi.within (fun ht => htemplate ((h.isIn_iff (hlt i (.head _))).mpr ht)) k hk

theorem Keeps.stacked (hl : Stacked d l)
    (hunder : ∀ j ∈ l, ∀ k, Under e k j ↔ Under d k j) : Stacked e l := by
  induction hl with
  | nil => exact .nil
  | cons hi hl ih =>
    exact .cons (h.stands hi (fun j hj => (Stacked.cons hi hl).lt_of_mem hj) hunder)
      (ih fun j hj => hunder j (.tail _ hj))

end

theorem IsIn.lt_size (h : d.IsIn tags i) : i < d.entries.size := by
  obtain ⟨tag, -, hn⟩ := h
  exact lt_of_name? hn

/-- An open element that may yet be moved with all it holds: by the end tag of a formatting element
that was opened before it, or by frames that take the place of the body. -/
def Movable (d : Draft) (s : Nat) : Prop :=
  ∃ l, s :: l <:+ d.stack ∧ (d.IsIn ["body"] s ∨ ∃ x ∈ l, d.IsIn formatTags x)

/-- What stands in a form, and in no element that may be moved out of it. -/
structure Moored (d : Draft) (k i : Nat) : Prop where
  under : Under d k i
  fixed : ∀ s, Movable d s → Under d k s → ¬ Under d s i

theorem Movable.mem (h : Movable d s) : s ∈ d.stack := by
  obtain ⟨l, hl, -⟩ := h
  exact hl.subset (.head _)

/-- What stands in a form that is closed with all inside it is moored. -/
theorem Shut.moored (h : Shut d k) (hi : Under d k i) : Moored d k i :=
  ⟨hi, fun s hs hks => absurd hks (h s hs.mem)⟩

/-- What no token does to a draft, nor any part of its rules. -/
structure Passes (d e : Draft) : Prop where
  before : Sound d
  sound : Sound e
  keeps : Keeps d e
  stays_closed : ∀ i < d.entries.size, i ∉ d.stack → i ∉ e.stack
  /-- An entry that is closed, in one that is closed, is not moved. -/
  stays : ∀ i < d.entries.size, i ∉ d.stack → (∀ p, d.parent? i = some p → p ∉ d.stack) →
    e.parent? i = d.parent? i
  /-- Nothing comes into a closed form. -/
  shut : ∀ k, d.IsIn ["form"] k → Shut d k →
    Shut e k ∧ ∀ i < d.entries.size, Under e k i → Under d k i
  /-- Nothing leaves an open form. -/
  under : ∀ k, d.IsIn ["form"] k → k ∈ d.stack → ∀ i, Under d k i → Under e k i
  /-- What is moored in a closed form stays there. -/
  moored : ∀ k, d.IsIn ["form"] k → k ∉ d.stack → ∀ i, Moored d k i → Moored e k i

/-- What the rules do besides closing a form by its end tag and adding a control. -/
structure Leads (d e : Draft) : Prop extends Passes d e where
  /-- A form is closed with all inside it. -/
  form_open : ∀ k, d.IsIn ["form"] k → k ∈ d.stack → k ∈ e.stack ∨ Shut e k
  new : ∀ i, d.entries.size ≤ i → ¬ e.IsIn controlTags i

theorem Under.lt_size (h : Under d k i) (hk : k < d.entries.size) : i < d.entries.size := by
  cases h with
  | refl => exact hk
  | step hp _ => exact lt_of_parent? hp

theorem Leads.refl (h : Sound d) : Leads d d where
  before := h
  sound := h
  keeps := .refl d
  stays_closed _ _ hi := hi
  stays _ _ _ _ := rfl
  shut _ _ hshut := ⟨hshut, fun _ _ hi => hi⟩
  under _ _ _ _ hi := hi
  moored _ _ _ _ hi := hi
  form_open _ _ hopen := .inl hopen
  new _ hi hcontrol := Nat.not_lt.mpr hi hcontrol.lt_size

/-- What stands in a closed form stays there. -/
theorem under_of_shut (hclosed : ∀ i < d.entries.size, i ∉ d.stack →
      (∀ p, d.parent? i = some p → p ∉ d.stack) → e.parent? i = d.parent? i)
    (hshut : Shut d k) (hi : Under d k i) : Under e k i := by
  refine hi.congr fun j hj _ hkj => ?_
  have hopen {j : Nat} (hkj : Under d k j) : j ∉ d.stack := fun hmem => hshut j hmem hkj
  obtain ⟨p, hp, hkp⟩ := (under_iff.mp hkj).resolve_left hj
  refine hclosed j (lt_of_parent? hp) (hopen hkj) fun q hq => ?_
  obtain rfl := Option.some.inj (hp.symm.trans hq)
  exact hopen hkp

theorem Leads.passes (h : Leads d e) (h' : Passes e f) : Passes d f where
  before := h.before
  sound := h'.sound
  keeps := h.keeps.trans h'.keeps
  stays_closed i hi hclosed :=
    h'.stays_closed i (Nat.lt_of_lt_of_le hi h.keeps.size_le) (h.stays_closed i hi hclosed)
  stays i hi hclosed hparent := by
    have hsame := h.stays i hi hclosed hparent
    refine (h'.stays i (Nat.lt_of_lt_of_le hi h.keeps.size_le) (h.stays_closed i hi hclosed)
      fun p hp => ?_).trans hsame
    rw [hsame] at hp
    exact h.stays_closed p (h.before.linked.lt_parent hp) (hparent p hp)
  shut k hk hshut := by
    have hk' := (h.keeps.isIn_iff hk.lt_size).mpr hk
    obtain ⟨hshut', hunder⟩ := h.shut k hk hshut
    obtain ⟨hshut'', hunder'⟩ := h'.shut k hk' hshut'
    refine ⟨hshut'', fun i hi hki => hunder i hi (hunder' i ?_ hki)⟩
    exact Nat.lt_of_lt_of_le hi h.keeps.size_le
  under k hk hopen i hi := by
    have hk' := (h.keeps.isIn_iff hk.lt_size).mpr hk
    have hi' := h.under k hk hopen i hi
    rcases h.form_open k hk hopen with hopen' | hshut
    · exact h'.under k hk' hopen' i hi'
    · exact under_of_shut h'.stays hshut hi'
  moored k hk hclosed i hi := by
    have hk' := (h.keeps.isIn_iff hk.lt_size).mpr hk
    exact h'.moored k hk' (h.stays_closed k hk.lt_size hclosed) i (h.moored k hk hclosed i hi)

theorem Leads.trans (h : Leads d e) (h' : Leads e f) : Leads d f where
  toPasses := h.passes h'.toPasses
  form_open k hk hopen := by
    have hk' := (h.keeps.isIn_iff hk.lt_size).mpr hk
    rcases h.form_open k hk hopen with hopen' | hshut
    · exact h'.form_open k hk' hopen'
    · exact .inr (h'.shut k hk' hshut).1
  new i hi hcontrol := by
    rcases Nat.lt_or_ge i e.entries.size with hlt | hge
    · exact h.new i hi ((h'.keeps.isIn_iff hlt).mp hcontrol)
    · exact h'.new i hge hcontrol

/-! ## Drafts with the same tree -/

/-- Two drafts with the same tree. -/
structure Alike (d e : Draft) : Prop where
  linked : Linked e
  size : e.entries.size = d.entries.size
  lasting : ∀ i, e.lasting? i = d.lasting? i
  inside : ∀ i, e.inside? i = d.inside? i
  parent : ∀ i, e.parent? i = d.parent? i
  head : e.head = d.head

theorem Alike.of_entries (h : Linked d) (he : e.entries = d.entries) (hhead : e.head = d.head) :
    Alike d e where
  linked := h.congr he
  size := by rw [he]
  lasting i := by rw [lasting?, content?_congr he, lasting?]
  inside i := by rw [inside?_congr he]
  parent i := by rw [parent?_congr he]
  head := hhead

namespace Alike
variable (h : Alike d e)
include h

theorem keeps : Keeps d e :=
  ⟨Nat.le_of_eq h.size.symm, fun i _ => h.lasting i, fun i _ => h.inside i, h.head⟩

theorem name? (i : Nat) : e.name? i = d.name? i := by rw [name?_eq, name?_eq, h.lasting i]

theorem isIn_iff : e.IsIn tags i ↔ d.IsIn tags i := by simp only [IsIn, h.name?]

theorem root_iff : e.content? i = some .root ↔ d.content? i = some .root := by
  rw [← lasting?_eq_root_iff, ← lasting?_eq_root_iff, h.lasting i]

theorem under_iff : Under e k i ↔ Under d k i :=
  ⟨fun hi => hi.congr fun j _ _ _ => (h.parent j).symm, fun hi => hi.congr fun j _ _ _ => h.parent j⟩

theorem stacked (hl : Stacked d l) : Stacked e l :=
  h.keeps.stacked hl fun _ _ _ => h.under_iff

/-- Closing elements makes none of the others movable. -/
theorem movable (hsub : e.stack.Sublist d.stack) (hs : Movable e s) : Movable d s := by
  obtain ⟨l, hl, hmoves⟩ := hs
  obtain ⟨a, b, hab, hmem, hlb⟩ := List.cons_sublist_iff.mp (hl.sublist.trans hsub)
  obtain ⟨a₁, a₂, rfl⟩ := List.append_of_mem hmem
  refine ⟨a₂ ++ b, ⟨a₁, by simp [hab]⟩, hmoves.imp h.isIn_iff.mp ?_⟩
  rintro ⟨x, hx, hin⟩
  exact ⟨x, List.mem_append_right _ (hlb.subset hx), h.isIn_iff.mp hin⟩

theorem moored (hsub : e.stack.Sublist d.stack) (hi : Moored d k i) : Moored e k i where
  under := h.under_iff.mpr hi.under
  fixed s hs hks hsi :=
    hi.fixed s (h.movable hsub hs) (h.under_iff.mp hks) (h.under_iff.mp hsi)

theorem grounded (hd : Grounded d) : Grounded e where
  rooted := ⟨h.linked, h.root_iff.mpr hd.rooted.content, fun i hi => by
    rw [h.parent]
    exact hd.rooted.free i (h.root_iff.mp hi)⟩
  inside i r hr := by
    rw [h.inside] at hr
    exact h.root_iff.mpr (hd.inside i r hr)
  page := by rw [h.parent, hd.page]
  html_iff i := by rw [h.isIn_iff, hd.html_iff]
  head := by
    obtain ⟨i, hi, hin, hparent⟩ := hd.head
    exact ⟨i, by rw [h.head, hi], h.isIn_iff.mpr hin, by rw [h.parent, hparent]⟩

end Alike

/-- Some elements are closed, and the tree stays. -/
theorem Sound.restack_passes (h : Sound d) (he : Alike d e) (hstacked : Stacked d e.stack)
    (hbottom : e.stack.getLast? = some 1) (hsub : e.stack.Sublist d.stack)
    (hform : ∀ k, e.form = some k → d.IsIn ["form"] k ∧ (k ∈ e.stack ∨ Shut e k))
    (hformats : ∀ i t, some (i, t) ∈ e.formatting →
      d.name? i = some (.html t.name) ∧ t.name ∈ formatTags)
    (hmode : Fits e e.mode) (htemplates : ∀ m ∈ e.templateModes, m ∈ contentModes) :
    Passes d e where
  before := h
  sound := by
    refine ⟨he.grounded h.grounded, he.stacked hstacked, hbottom, fun i t hit => ?_,
      fun k hk => ?_, hmode, htemplates⟩
    · rw [he.name?]
      exact hformats i t hit
    · obtain ⟨hin, hk⟩ := hform k hk
      exact ⟨he.isIn_iff.mpr hin, hk⟩
  keeps := he.keeps
  stays_closed i _ hclosed hopen := hclosed (hsub.subset hopen)
  stays i _ _ _ := he.parent i
  shut k _ hshut := by
    refine ⟨fun s hs hks => hshut s (hsub.subset hs) (he.under_iff.mp hks), fun i _ hki => ?_⟩
    exact he.under_iff.mp hki
  under k _ _ i hi := he.under_iff.mpr hi
  moored k _ _ i hi := he.moored hsub hi

theorem Sound.restack (h : Sound d) (he : Alike d e) (hstacked : Stacked d e.stack)
    (hbottom : e.stack.getLast? = some 1) (hsub : e.stack.Sublist d.stack)
    (hopen : ∀ k, d.IsIn ["form"] k → k ∈ d.stack → k ∈ e.stack ∨ Shut e k)
    (hform : ∀ k, e.form = some k → d.form = some k ∨
      d.IsIn ["form"] k ∧ (k ∈ e.stack ∨ Shut e k))
    (hformats : ∀ i t, some (i, t) ∈ e.formatting →
      d.name? i = some (.html t.name) ∧ t.name ∈ formatTags)
    (hmode : Fits e e.mode) (htemplates : ∀ m ∈ e.templateModes, m ∈ contentModes) :
    Leads d e where
  toPasses := by
    refine h.restack_passes he hstacked hbottom hsub (fun k hk => ?_) hformats hmode htemplates
    rcases hform k hk with hold | hnew
    · obtain ⟨hin, hopened | hshut⟩ := h.form k hold
      · exact ⟨hin, hopen k hin hopened⟩
      · exact ⟨hin, .inr fun s hs hks => hshut s (hsub.subset hs) (he.under_iff.mp hks)⟩
    · exact hnew
  form_open := hopen
  new i hi hcontrol := by
    have hlt := hcontrol.lt_size
    rw [he.size] at hlt
    exact Nat.not_lt.mpr hi hlt

/-! ## Closing elements -/

theorem Fits.of_alike {m : Mode} (h : Fits d m) (he : Alike d e)
    (hanchor : ∀ i ∈ d.stack, d.IsIn (anchors m) i → i ∈ e.stack) : Fits e m where
  lasting := h.lasting
  anchored hm := by
    obtain ⟨i, hi, hin⟩ := h.anchored hm
    exact ⟨i, hanchor i hi hin, he.isIn_iff.mpr hin⟩

/-- Nothing is closed. -/
theorem Sound.calm (h : Sound d) (he : Alike d e) (hstack : e.stack = d.stack)
    (hform : e.form = d.form) (hformats : ∀ x ∈ e.formatting, x ∈ d.formatting)
    (hmode : Fits e e.mode) (htemplates : ∀ m ∈ e.templateModes, m ∈ d.templateModes) :
    Leads d e :=
  h.restack he (hstack ▸ h.stacked) (hstack ▸ h.bottom) (hstack ▸ .refl _)
    (fun _ _ hk => .inl (hstack ▸ hk)) (fun _ hk => .inl (hform ▸ hk))
    (fun i t hit => h.formats i t (hformats _ hit)) hmode
    fun m hm => h.templates m (htemplates m hm)

/-- Nothing but flags changes. -/
theorem Sound.flags (h : Sound d) (hentries : e.entries = d.entries) (hstack : e.stack = d.stack)
    (hhead : e.head = d.head) (hform : e.form = d.form) (hformatting : e.formatting = d.formatting)
    (hmode : e.mode = d.mode) (htemplates : e.templateModes = d.templateModes) : Leads d e := by
  have he := Alike.of_entries h.linked hentries hhead
  refine h.calm he hstack hform (fun x hx => hformatting ▸ hx) ?_ fun m hm => htemplates ▸ hm
  rw [hmode]
  exact h.mode.of_alike he fun i hi _ => hstack ▸ hi

/-- The elements opened last are closed. -/
theorem Sound.closes (h : Sound d) (he : Alike d e) (hstack : d.stack = a ++ e.stack)
    (hne : e.stack ≠ []) (hform : e.form = d.form)
    (hformats : ∀ x ∈ e.formatting, x ∈ d.formatting) (hmode : Fits e e.mode)
    (htemplates : ∀ m ∈ e.templateModes, m ∈ d.templateModes) : Leads d e := by
  have hstacked := h.stacked
  rw [hstack] at hstacked
  refine h.restack he hstacked.drop (h.bottom_of_append hstack hne)
    (hstack ▸ List.sublist_append_right _ _) (fun k _ hk => ?_) (fun _ hk => .inl (hform ▸ hk))
    (fun i t hit => h.formats i t (hformats _ hit)) hmode fun m hm => h.templates m (htemplates m hm)
  rw [hstack] at hk
  rcases List.mem_append.mp hk with hk | hk
  · exact .inr fun s hs hks => hstacked.not_under hk hs (he.under_iff.mp hks)
  · exact .inl hk

/-- When an element is taken out, the nearest form or template is as it was, or is around that. -/
theorem Nearest.of_filter {c : Nat} (hl : Stacked d l) (hc : ¬ d.IsIn ["template"] c)
    (h : Nearest d k (l.filter (· ≠ c))) :
    ∃ s, Nearest d s l ∧ Under d (d.ground k) (d.ground s) := by
  induction l with
  | nil => cases h
  | cons i l ih =>
    by_cases hi : i = c
    · subst hi
      rw [List.filter_cons_of_neg (by simp)] at h
      obtain ⟨s, hs, hks⟩ := ih hl.tail h
      by_cases hsolid : d.IsSolid i
      · have hform := (isSolid_iff.mp hsolid).resolve_right hc
        refine ⟨i, .here hsolid, ?_⟩
        rw [ground_of_form hform]
        exact (hl.head.within hc s hs).trans hks
      · exact ⟨s, .there hsolid hs, hks⟩
    · rw [List.filter_cons_of_pos (by simpa using hi)] at h
      cases h with
      | here hk => exact ⟨k, .here hk, .refl⟩
      | there hsolid hk =>
        obtain ⟨s, hs, hks⟩ := ih hl.tail hk
        exact ⟨s, .there hsolid hs, hks⟩

/-- Tags of elements that others must stand right in, and of templates. -/
def holders : List String := ["template", "html", "table"] ++ ElementName.sections

/-- Tags of elements that are not to be closed while others are open inside them. -/
def pillars : List String := "form" :: holders ++ ["head", "select"] ++ ElementName.cells

theorem Stacked.filter {c : Nat} (h : Stacked d l) (hc : ¬ d.IsIn holders c) :
    Stacked d (l.filter (· ≠ c)) := by
  have hholds {tags : List String} {l : List Nat} (hsub : ∀ tag ∈ tags, tag ∈ holders)
      (hl : ∀ j, l.head? = some j → d.IsIn tags j) (j : Nat)
      (hj : (l.filter (· ≠ c)).head? = some j) : d.IsIn tags j := by
    cases l with
    | nil => cases hj
    | cons i l =>
      have hi := hl i rfl
      have hic : i ≠ c := fun hic => hc (hic ▸ hi.mono hsub)
      rw [List.filter_cons_of_pos (by simpa using hic)] at hj
      exact Option.some.inj hj ▸ hi
  induction h with
  | nil => exact .nil
  | @cons i l hi hl ih =>
    by_cases hic : i = c
    · subst hic
      rwa [List.filter_cons_of_neg (by simp)]
    · rw [List.filter_cons_of_pos (by simpa using hic)]
      refine .cons ⟨hi.element, fun j hj => hi.order j (List.mem_of_mem_filter hj), fun hrow => ?_,
        fun hsection => ?_, fun hhead => ?_, fun ht k hk => ?_⟩ ih
      · exact hholds (by decide) (hi.row hrow)
      · exact hholds (by decide) (hi.tableSection hsection)
      · exact hholds (by decide) (hi.head hhead)
      · obtain ⟨s, hs, hks⟩ := hk.of_filter hl fun htemplate => hc (htemplate.mono (by decide))
        exact (hi.within ht s hs).trans hks

theorem anchors_subset_pillars (m : Mode) : ∀ tag ∈ anchors m, tag ∈ pillars := by
  cases m <;> decide

theorem mem_close {c : Nat} {tags : List String} (hc : ¬ d.IsIn tags c) (hi : i ∈ d.stack)
    (hin : d.IsIn tags i) : i ∈ (d.close c).stack := by
  refine List.mem_filter.mpr ⟨hi, ?_⟩
  have hic : i ≠ c := fun hic => hc (hic ▸ hin)
  simpa using hic

section
variable {c : Nat} (h : Sound d) (hc : ¬ d.IsIn holders c)
include h hc

theorem Sound.bottom_close : (d.close c).stack.getLast? = some 1 := by
  obtain ⟨a, ha⟩ := List.getLast?_eq_some_iff.mp h.bottom
  have hhtml : (1 : Nat) ≠ c := by
    rintro rfl
    exact hc (((h.grounded.html_iff 1).mpr rfl).mono (by decide))
  rw [Draft.close]
  simp only [ha, List.filter_append]
  rw [List.filter_cons_of_pos (by simpa using hhtml), List.filter_nil, List.getLast?_concat]

/-- An element that no other must stand in is closed, whatever is open inside it. -/
theorem Sound.close_of (hform : ¬ d.IsIn ["form"] c) (hanchor : ¬ d.IsIn (anchors d.mode) c) :
    Leads d (d.close c) := by
  have he : Alike d (d.close c) := .of_entries h.linked rfl rfl
  exact h.restack he (h.stacked.filter hc) (h.bottom_close hc)
    List.filter_sublist (fun k hin hk => .inl (mem_close hform hk hin))
    (fun _ hk => .inl hk) h.formats (h.mode.of_alike he fun i hi hin => mem_close hanchor hi hin)
    h.templates

/-- A form to which nothing belongs any more is closed, whatever is open inside it. -/
theorem Sound.close_passes (hform : d.form = none) (hanchor : ¬ d.IsIn (anchors d.mode) c) :
    Passes d (d.close c) := by
  have he : Alike d (d.close c) := .of_entries h.linked rfl rfl
  refine h.restack_passes he (h.stacked.filter hc) (h.bottom_close hc)
    List.filter_sublist (fun k hk => ?_) h.formats
    (h.mode.of_alike he fun i hi hin => mem_close hanchor hi hin) h.templates
  rw [Draft.close, hform] at hk
  cases hk

end

theorem Sound.close {c : Nat} (h : Sound d) (hc : ¬ d.IsIn pillars c) : Leads d (d.close c) :=
  h.close_of (fun hin => hc (hin.mono (by decide))) (fun hin => hc (hin.mono (by decide)))
    fun hin => hc (hin.mono (anchors_subset_pillars _))

end PluginRelease.Html.Draft
