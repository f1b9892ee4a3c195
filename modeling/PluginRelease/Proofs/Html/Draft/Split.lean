import PluginRelease.Proofs.Html.Draft.Closing

/-!
What a misplaced end tag of a formatting element does to the tree. A block in the element is put
where the element stands, in copies of what is open between them, and what it holds comes into a
copy of the element. Of the old nodes only the block itself is moved, up among the open elements:
so it stays in the forms that are open around it, and comes into no other.
-/
namespace PluginRelease.Html.Draft
variable {d e : Draft} {i j k p x b : Nat} {a l mid below copies : List Nat} {tags : List String}

/-- Each of some nodes is a child of the next, and the last of them one of another. -/
inductive Climbs (d : Draft) (p : Nat) : List Nat → Prop
  | nil : Climbs d p []
  | cons {i : Nat} {l : List Nat} :
    d.parent? i = some (l.headD p) → Climbs d p l → Climbs d p (i :: l)

theorem Climbs.under_iff (h : Climbs d p (i :: l)) : Under d k i ↔ k ∈ i :: l ∨ Under d k p := by
  induction l generalizing i with
  | nil =>
    cases h with
    | cons hp _ => rw [under_step hp, List.headD_nil, List.mem_singleton, eq_comm]
  | cons j l ih =>
    cases h with
    | cons hp h => rw [under_step hp, List.headD_cons, ih h, List.mem_cons (a := k) (b := i),
        or_assoc, eq_comm]

theorem Climbs.suffix (h : Climbs d p (a ++ l)) : Climbs d p l := by
  induction a with
  | nil => exact h
  | cons i a ih =>
    cases h
    exact ih ‹_›

theorem Climbs.exists_parent (h : Climbs d p l) (hi : i ∈ l) : ∃ q, d.parent? i = some q := by
  obtain ⟨l₁, l₂, rfl⟩ := List.append_of_mem hi
  cases h.suffix with
  | cons hp _ => exact ⟨_, hp⟩

theorem Climbs.parent_mem (h : Climbs d p (i :: l)) (hb : b ∈ i :: l) (hk : d.parent? b = some k) :
    k ∈ l ∨ k = p := by
  induction l generalizing i with
  | nil =>
    cases h with
    | cons hp _ =>
      obtain rfl := List.mem_singleton.mp hb
      exact .inr (Option.some.inj (hk.symm.trans hp))
  | cons j l ih =>
    cases h with
    | cons hp h =>
      rcases List.mem_cons.mp hb with rfl | hb
      · obtain rfl := Option.some.inj (hk.symm.trans hp)
        exact .inl (.head _)
      · exact (ih h hb).imp_left (.tail _)

theorem Climbs.congr (h : Climbs d p l) (hsame : ∀ i ∈ l, e.parent? i = d.parent? i) :
    Climbs e p l := by
  induction h with
  | nil => exact .nil
  | cons hp _ ih =>
    exact .cons ((hsame _ (.head _)).trans hp) (ih fun i hi => hsame i (.tail _ hi))

theorem Climbs.concat (h : Climbs d i l) (hp : d.parent? i = some p) : Climbs d p (l ++ [i]) := by
  induction h with
  | nil => exact .cons hp .nil
  | @cons b l hb _ ih =>
    refine .cons ?_ ih
    cases l with
    | nil => exact hb
    | cons c l => exact hb

/-- A block is moved out of a formatting element, among the elements that are open around that; the
block and some copies of formatting elements climb up to there. -/
structure Splits (d e : Draft) (a mid below : List Nat) (x j p : Nat) (copies : List Nat) : Prop where
  before : Sound d
  keeps : Keeps d e
  linked : Linked e
  stack_before : d.stack = a ++ x :: (mid ++ below)
  stack_after : e.stack = a ++ j :: x :: (copies ++ below)
  mid_format : ∃ b ∈ mid, d.IsIn formatTags b
  below_ne_nil : below ≠ []
  above_plain : ∀ b ∈ a, ¬ d.IsIn ["template"] b
  mid_plain : ∀ b ∈ mid, ¬ d.IsIn pillars b
  block : ¬ d.IsIn fences x
  site : Site d below p
  parent : ∀ b < d.entries.size, b ≠ x → d.parent? b ≠ some x → e.parent? b = d.parent? b
  moved : ∀ b < d.entries.size, b ≠ x → d.parent? b = some x → e.parent? b = some j
  copy_parent : e.parent? j = some x
  climbs : Climbs e p (x :: copies)
  fresh : ∀ b ∈ j :: copies, d.entries.size ≤ b
  nodup : (j :: copies).Nodup
  new : ∀ b c, d.entries.size ≤ b → e.content? b = some c → e.IsIn formatTags b
  inside : ∀ b, d.entries.size ≤ b → e.inside? b = none

namespace Splits
variable (h : Splits d e a mid below x j p copies)
include h

theorem stacked : Stacked d (a ++ x :: (mid ++ below)) := h.stack_before ▸ h.before.stacked

theorem lt_of_mem (hb : b ∈ a ++ x :: (mid ++ below)) : b < d.entries.size :=
  h.before.lt_of_mem (h.stack_before ▸ hb)

theorem lt_block : x < d.entries.size := h.lt_of_mem (by simp)

theorem lt_site : p < d.entries.size := h.site.lt_size

theorem block_element : (d.name? x).isSome := h.stacked.stands.element

theorem block_not_root : d.content? x ≠ some .root := not_root_of_isSome h.block_element

/-- The block is not above its new place. -/
theorem not_under_site : ¬ Under d x p :=
  h.site.outside x h.block_not_root fun s hs =>
    (h.stacked.stands.order s (List.mem_append_right _ hs)).1

theorem ne_fresh (hb : b < d.entries.size) (hc : k ∈ j :: copies) : b ≠ k := fun heq =>
  Nat.not_lt.mpr (h.fresh k hc) (heq ▸ hb)

/-- What does not stand below the block stands where it stood. -/
theorem under_outside_iff (hb : b < d.entries.size) (hx : ¬ Under d x b) :
    Under e k b ↔ Under d k b := by
  have hlinked := h.before.linked
  have hstep {b : Nat} (hb : b < d.entries.size) (hx : ¬ Under d x b) :
      e.parent? b = d.parent? b :=
    h.parent b hb (fun heq => hx (heq ▸ .refl)) fun hp => hx (.step hp .refl)
  constructor
  · intro hk
    induction hk with
    | refl => exact .refl
    | step hp _ ih =>
      rw [hstep hb hx] at hp
      exact .step hp (ih (hlinked.lt_parent hp) fun hxp => hx (.step hp hxp))
  · intro hk
    induction hk with
    | refl => exact .refl
    | step hp _ ih =>
      exact .step ((hstep hb hx).trans hp) (ih (hlinked.lt_parent hp) fun hxp => hx (.step hp hxp))

theorem under_site_iff : Under e k p ↔ Under d k p := h.under_outside_iff h.lt_site h.not_under_site

theorem under_block_iff (hk : k < d.entries.size) : Under e k x ↔ k = x ∨ Under d k p := by
  rw [h.climbs.under_iff, h.under_site_iff, List.mem_cons]
  have hcopy : k ∉ copies := fun hmem => h.ne_fresh hk (.tail _ hmem) rfl
  simp [hcopy]

theorem under_copy_iff (hk : k < d.entries.size) : Under e k j ↔ k = x ∨ Under d k p := by
  rw [under_step h.copy_parent, h.under_block_iff hk]
  have hne : j ≠ k := (h.ne_fresh hk (.head _)).symm
  simp [hne]

/-- An old node that stands below another after the split stood below it, or the new place does. -/
theorem under_of_under (hb : b < d.entries.size) (hk : k < d.entries.size) (hu : Under e k b) :
    Under d k b ∨ Under d k p := by
  induction hu with
  | refl => exact .inl .refl
  | @step b q hp hq ih =>
    by_cases hbx : b = x
    · subst hbx
      refine ((h.under_block_iff hk).mp (.step hp hq)).imp_left ?_
      rintro rfl
      exact .refl
    · by_cases hchild : d.parent? b = some x
      · rw [h.moved b hb hbx hchild] at hp
        obtain rfl := Option.some.inj hp
        refine ((h.under_copy_iff hk).mp hq).imp_left ?_
        rintro rfl
        exact .step hchild .refl
      · rw [h.parent b hb hbx hchild] at hp
        exact (ih (h.before.linked.lt_parent hp)).imp_left (.step hp)

/-- An old node stays below another if the block does. -/
theorem under_keeps (hk : k < d.entries.size) (hu : Under d k b)
    (hblock : Under d x b → Under d k x → k = x ∨ Under d k p) : Under e k b := by
  induction hu with
  | refl => exact .refl
  | @step b q hp hq ih =>
    have hb := lt_of_parent? hp
    by_cases hbx : b = x
    · subst hbx
      exact (h.under_block_iff hk).mpr (hblock .refl (.step hp hq))
    · by_cases hchild : d.parent? b = some x
      · obtain rfl := Option.some.inj (hp.symm.trans hchild)
        refine .step (h.moved b hb hbx hchild) ((h.under_copy_iff hk).mpr ?_)
        exact hblock (.step hp .refl) hq
      · exact .step ((h.parent b hb hbx hchild).trans hp) (ih fun hxq => hblock (.step hp hxq))

/-! ### Open elements after a split -/

theorem isIn_iff (hb : b < d.entries.size) : e.IsIn tags b ↔ d.IsIn tags b := h.keeps.isIn_iff hb

theorem lt_fresh (hb : b ∈ j :: copies) : b < e.entries.size := by
  rcases List.mem_cons.mp hb with rfl | hb
  · exact lt_of_parent? h.copy_parent
  · obtain ⟨q, hq⟩ := h.climbs.exists_parent (.tail _ hb)
    exact lt_of_parent? hq

/-- Copies of formatting elements are nothing else. -/
theorem fresh_isIn (hb : b ∈ j :: copies) : e.IsIn formatTags b := by
  cases hc : e.content? b with
  | none => exact absurd (h.lt_fresh hb) (Nat.not_lt.mpr (content?_eq_none_iff.mp hc))
  | some c => exact h.new b c (h.fresh b hb) hc

theorem ground_fresh (hb : b ∈ j :: copies) : e.ground b = b := by
  rw [ground, h.inside b (h.fresh b hb)]
  split <;> rfl

/-- A block in a formatting element is no part of a table, and no head. -/
theorem block_plain : ¬ d.IsIn ("head" :: "tr" :: fences) x := by
  obtain ⟨b, hb, -⟩ := h.mid_format
  obtain ⟨m, mid', hmid⟩ := List.exists_cons_of_ne_nil (List.ne_nil_of_mem hb)
  have hstands := h.stacked.stands
  rw [hmid] at hstands
  have hplain := h.mid_plain m (hmid ▸ .head _)
  rintro ⟨tag, htag, hn⟩
  rcases List.mem_cons.mp htag with rfl | htag
  · exact hplain ((hstands.head (.of_name? hn (.head _)) m rfl).mono (by decide))
  · rcases List.mem_cons.mp htag with rfl | htag
    · exact hplain ((hstands.row (.of_name? hn (.head _)) m rfl).mono (by decide))
    · exact h.block (.of_name? hn htag)

theorem block_not_template : ¬ d.IsIn ["template"] x := fun hin =>
  h.block_plain (hin.mono (by decide))

theorem outside_below (hb : b ∈ below) : ¬ Under d x b :=
  (h.stacked.stands.order b (List.mem_append_right _ hb)).1

theorem lt_below (hb : b ∈ below) : b < d.entries.size := h.lt_of_mem (by simp [hb])

theorem stacked_below : Stacked e below := by
  have hbelow : Stacked d below := by
    have hdrop := h.stacked.drop.tail
    exact hdrop.drop
  exact h.keeps.stacked hbelow fun b hb k => h.under_outside_iff (h.lt_below hb) (h.outside_below hb)

theorem nearest_below_iff : Nearest e k below ↔ Nearest d k below :=
  h.keeps.nearest_iff fun _ hb => h.lt_below hb

/-- The new place stands in the nearest form or template. -/
theorem under_ground_site (hk : Nearest d k below) : Under e (e.ground k) p := by
  rw [h.keeps.ground_eq (h.lt_below hk.mem), h.under_site_iff]
  exact h.site.inside k hk

theorem not_solid_fresh (hb : b ∈ j :: copies) : ¬ e.IsSolid b :=
  (h.fresh_isIn hb).not_of_disjoint (by decide)

theorem nearest_of_copies {l : List Nat} (hl : ∀ b ∈ l, b ∈ copies)
    (hk : Nearest e k (l ++ below)) : Nearest d k below := by
  induction l with
  | nil => exact h.nearest_below_iff.mp hk
  | cons i l ih =>
    exact ih (fun b hb => hl b (.tail _ hb))
      (hk.tail (h.not_solid_fresh (.tail _ (hl i (.head _)))))

/-- A copy, which is no part of a table and no head, stands well where it is not above anything. -/
theorem stands_fresh {l : List Nat} (hb : b ∈ j :: copies) (horder : ∀ i ∈ l, ¬ Under e b i)
    (hwithin : ∀ k, Nearest e k l → Under e (e.ground k) b) : Stands e b l where
  element := (h.fresh_isIn hb).isSome
  order i hi := by
    rw [h.ground_fresh hb]
    exact ⟨horder i hi, horder i hi⟩
  row hrow := absurd hrow ((h.fresh_isIn hb).not_of_disjoint (by decide))
  tableSection hsection := absurd hsection ((h.fresh_isIn hb).not_of_disjoint (by decide))
  head hhead := absurd hhead ((h.fresh_isIn hb).not_of_disjoint (by decide))
  within _ := hwithin

/-- Nothing old stands below a copy but what has climbed there. -/
theorem not_under_fresh (hb : b ∈ j :: copies) (hi : i < d.entries.size) (hx : ¬ Under d x i) :
    ¬ Under e b i := by
  rw [h.under_outside_iff hi hx]
  exact not_under_old h.before.linked hi (h.fresh b hb)

/-- What is above a copy is a copy further up, or above the new place. -/
theorem under_of_under_copy (hb : b ∈ copies) (hk : Under e k b) :
    k ∈ copies ∨ Under d k p := by
  obtain ⟨l₁, l₂, rfl⟩ := List.append_of_mem hb
  have hsuffix : Climbs e p (b :: l₂) := .suffix (a := x :: l₁) h.climbs
  rw [hsuffix.under_iff, h.under_site_iff] at hk
  exact hk.imp_left (List.mem_append_right _)

theorem stacked_copies {l : List Nat} (hclimbs : Climbs e p l) (hl : ∀ c ∈ l, c ∈ copies)
    (hnodup : l.Nodup) : Stacked e (l ++ below) := by
  induction l with
  | nil => exact h.stacked_below
  | cons c l ih =>
    have hc := hl c (.head _)
    have hcl := List.nodup_cons.mp hnodup
    have hclimbs' : Climbs e p l := .suffix (a := [c]) hclimbs
    refine .cons (h.stands_fresh (.tail _ hc) (fun i hi => ?_) fun k hk => ?_)
      (ih hclimbs' (fun a ha => hl a (.tail _ ha)) hcl.2)
    · rcases List.mem_append.mp hi with hi | hi
      · obtain ⟨l₁, l₂, rfl⟩ := List.append_of_mem hi
        have hsuffix : Climbs e p (i :: l₂) := hclimbs'.suffix
        rw [hsuffix.under_iff, h.under_site_iff]
        rintro (hmem | hcp)
        · exact hcl.1 (List.mem_append_right _ hmem)
        · exact not_under_old h.before.linked h.lt_site (h.fresh c (.tail _ hc)) hcp
      · exact h.not_under_fresh (.tail _ hc) (h.lt_below hi) (h.outside_below hi)
    · exact hclimbs.under_iff.mpr (.inr (h.under_ground_site
        (h.nearest_of_copies (fun a ha => hl a (.tail _ ha)) hk)))

theorem ground_block : d.ground x = x := by
  rw [ground, if_neg fun ht => h.block_not_template (isTag_iff_isIn.mp ht)]

theorem stands_block : Stands e x (copies ++ below) := by
  have hin (tags : List String) (hsub : ∀ tag ∈ tags, tag ∈ "head" :: "tr" :: fences) :
      ¬ e.IsIn tags x := fun hin => h.block_plain (((h.isIn_iff h.lt_block).mp hin).mono hsub)
  refine ⟨?_, fun i hi => ?_, fun hrow => absurd hrow (hin _ (by decide)),
    fun hsection => absurd hsection (hin _ (by decide)),
    fun hhead => absurd hhead (hin _ (by decide)), fun _ k hk => ?_⟩
  · rw [h.keeps.name? h.lt_block]
    exact h.block_element
  · rw [h.keeps.ground_eq h.lt_block, h.ground_block, and_self]
    rcases List.mem_append.mp hi with hi | hi
    · intro hxi
      rcases h.under_of_under_copy hi hxi with hmem | hxp
      · exact h.ne_fresh h.lt_block (.tail _ hmem) rfl
      · exact h.not_under_site hxp
    · rw [h.under_outside_iff (h.lt_below hi) (h.outside_below hi)]
      exact h.outside_below hi
  · exact h.climbs.under_iff.mpr
      (.inr (h.under_ground_site (h.nearest_of_copies (fun _ hb => hb) hk)))

theorem stands_copy : Stands e j (x :: (copies ++ below)) := by
  refine h.stands_fresh (.head _) (fun i hi hji => ?_) fun k hk => ?_
  · have hjp : ¬ Under d j p := not_under_old h.before.linked h.lt_site (h.fresh j (.head _))
    have hcopies := (List.nodup_cons.mp h.nodup).1
    rcases List.mem_cons.mp hi with rfl | hi
    · rw [h.climbs.under_iff, h.under_site_iff, List.mem_cons] at hji
      rcases hji with (heq | hmem) | hjp'
      · exact h.ne_fresh h.lt_block (.head _) heq.symm
      · exact hcopies hmem
      · exact hjp hjp'
    · rcases List.mem_append.mp hi with hi | hi
      · exact (h.under_of_under_copy hi hji).elim hcopies hjp
      · exact h.not_under_fresh (.head _) (h.lt_below hi) (h.outside_below hi) hji
  · refine .step h.copy_parent ?_
    cases hk with
    | here _ =>
      rw [h.keeps.ground_eq h.lt_block, h.ground_block]
      exact .refl
    | there _ hk =>
      exact h.climbs.under_iff.mpr
        (.inr (h.under_ground_site (h.nearest_of_copies (fun _ hb => hb) hk)))

theorem mid_not_solid (hb : b ∈ mid) : ¬ d.IsSolid b := fun hsolid =>
  h.mid_plain b hb (hsolid.mono (by decide))

theorem nearest_before {l : List Nat} (hl : ∀ b ∈ l, b < d.entries.size)
    (hk : Nearest e k (l ++ j :: x :: (copies ++ below))) :
    Nearest d k (l ++ x :: (mid ++ below)) := by
  induction l with
  | nil =>
    have hk := hk.tail (h.not_solid_fresh (.head _))
    cases hk with
    | here hx => exact .here ((h.isIn_iff h.lt_block).mp hx)
    | there hx hk =>
      refine .there (fun hsolid => hx ((h.isIn_iff h.lt_block).mpr hsolid)) ?_
      exact .append (fun _ hb => h.mid_not_solid hb) (h.nearest_of_copies (fun _ hb => hb) hk)
  | cons i l ih =>
    cases hk with
    | here hi => exact .here ((h.isIn_iff (hl _ (.head _))).mp hi)
    | there hi hk =>
      refine .there (fun hsolid => hi ((h.isIn_iff (hl i (.head _))).mpr hsolid)) ?_
      exact ih (fun b hb => hl b (.tail _ hb)) hk

theorem ground_lt (hb : b < d.entries.size) : d.ground b < d.entries.size := by
  rw [ground]
  split
  · cases hr : d.inside? b with
    | none => exact hb
    | some r => exact lt_of_content? (h.before.grounded.inside b r hr)
  · exact hb

/-- What is above neither the block nor its new place nor anything below, stays so. -/
theorem not_under_behind (hi : i < d.entries.size) (hblock : ¬ Under d i x)
    (hsite : ¬ Under d i p) (hbelow : ∀ b ∈ below, ¬ Under d i b)
    (hb : b ∈ j :: x :: (copies ++ below)) : ¬ Under e i b := by
  have hold {b : Nat} (hb : b < d.entries.size) (hib : ¬ Under d i b) : ¬ Under e i b := fun hu =>
    (h.under_of_under hb hi hu).elim hib hsite
  rcases List.mem_cons.mp hb with rfl | hb
  · rw [h.under_copy_iff hi]
    rintro (rfl | hip)
    · exact hblock .refl
    · exact hsite hip
  rcases List.mem_cons.mp hb with rfl | hb
  · exact hold h.lt_block hblock
  rcases List.mem_append.mp hb with hb | hb
  · intro hib
    rcases h.under_of_under_copy hb hib with hmem | hip
    · exact h.ne_fresh hi (.tail _ hmem) rfl
    · exact hsite hip
  · exact hold (h.lt_below hb) (hbelow b hb)

/-- An element that is above the block, and not above its new place, is above nothing new. -/
theorem stands_above {l : List Nat} (hi : Stands d i (l ++ x :: (mid ++ below)))
    (hlt : ∀ b ∈ i :: l, b < d.entries.size) (htemplate : ¬ d.IsIn ["template"] i)
    (horder : ∀ b ∈ l, ¬ Under d (d.ground b) x) :
    Stands e i (l ++ j :: x :: (copies ++ below)) := by
  have hilt := hlt i (.head _)
  have hground : e.ground i = i := by
    rw [h.keeps.ground_eq hilt, ground, if_neg fun ht => htemplate (isTag_iff_isIn.mp ht)]
  have hsite : ¬ Under d i p := h.site.outside i (not_root_of_isSome hi.element) fun s hs =>
    (hi.order s (by simp [hs])).1
  have hhead {tags : List String} (htags : ∀ tag ∈ tags, tag ∈ fences)
      (hd : ∀ b, (l ++ x :: (mid ++ below)).head? = some b → d.IsIn tags b) (b : Nat)
      (hb : (l ++ j :: x :: (copies ++ below)).head? = some b) : e.IsIn tags b := by
    cases l with
    | nil => exact absurd ((hd x rfl).mono htags) h.block
    | cons c l =>
      obtain rfl := Option.some.inj hb
      exact (h.isIn_iff (hlt c (by simp))).mpr (hd c rfl)
  have hin {tags : List String} : e.IsIn tags i ↔ d.IsIn tags i := h.isIn_iff hilt
  refine ⟨?_, fun b hb => ?_, fun hrow => hhead (by decide) (hi.row (hin.mp hrow)),
    fun hsection => hhead (by decide) (hi.tableSection (hin.mp hsection)),
    fun hhead' => hhead (by decide) (hi.head (hin.mp hhead')), fun _ k hk => ?_⟩
  · rw [h.keeps.name? hilt]
    exact hi.element
  · rw [hground, and_self]
    rcases List.mem_append.mp hb with hb | hb
    · intro hu
      exact (h.under_of_under (hlt b (.tail _ hb)) hilt hu).elim (hi.order b (by simp [hb])).1 hsite
    · exact h.not_under_behind hilt (hi.order x (by simp)).1 hsite
        (fun b hb => (hi.order b (by simp [hb])).1) hb
  · have hk := h.nearest_before (fun b hb => hlt b (.tail _ hb)) hk
    have hmem : k ∈ l ∨ Nearest d k (x :: (mid ++ below)) := hk.of_append
    have hklt : k < d.entries.size := by
      rcases List.mem_append.mp hk.mem with hkl | hkl
      · exact hlt k (.tail _ hkl)
      · exact h.lt_of_mem (List.mem_append_right _ hkl)
    rw [h.keeps.ground_eq hklt]
    refine h.under_keeps (h.ground_lt hklt) (hi.within htemplate k hk) fun _ hkx => ?_
    rcases hmem with hkl | hk
    · exact absurd hkx (horder k hkl)
    · cases hk with
      | here _ => exact .inl h.ground_block
      | there _ hk =>
        rcases hk.of_append with hkm | hk
        · exact absurd hk.isSolid (h.mid_not_solid hkm)
        · exact .inr (h.site.inside k hk)

theorem stacked_after : Stacked e (a ++ j :: x :: (copies ++ below)) := by
  have hnodup := (List.nodup_cons.mp h.nodup).2
  have hbottom : Stacked e (j :: x :: (copies ++ below)) :=
    .cons h.stands_copy (.cons h.stands_block
      (h.stacked_copies (.suffix (a := [x]) h.climbs) (fun _ hb => hb) hnodup))
  have hsuffix : ∀ l b, b ++ l = a → Stacked e (l ++ j :: x :: (copies ++ below)) := by
    intro l
    induction l with
    | nil => exact fun _ _ => hbottom
    | cons i l ih =>
      intro b hb
      have hstacked := h.stacked
      rw [← hb, List.append_assoc] at hstacked
      have hmem {c : Nat} (hc : c ∈ i :: l) : c ∈ a := hb ▸ List.mem_append_right _ hc
      refine .cons (h.stands_above hstacked.stands (fun c hc => h.lt_of_mem ?_)
        (h.above_plain i (hmem (.head _))) fun c hc => ?_) (ih (b ++ [i]) (by simp [hb]))
      · exact List.mem_append_left _ (hmem hc)
      · obtain ⟨l₁, l₂, rfl⟩ := List.append_of_mem hc
        have htail : Stacked d (l₁ ++ c :: (l₂ ++ x :: (mid ++ below))) := by
          simpa using hstacked.drop.tail
        exact (htail.stands.order x (by simp)).2
  exact hsuffix a [] rfl

/-! ### The draft after a split -/

theorem isIn_of_new (hge : d.entries.size ≤ b) (hin : e.IsIn tags b) : e.IsIn formatTags b := by
  obtain ⟨n, attributes, hc⟩ := exists_content hin.isSome
  exact h.new b _ hge hc

theorem ne_block (hb : d.IsIn ["html", "head"] b) : b ≠ x := by
  rintro rfl
  exact h.block_plain (hb.mono (by decide))

theorem grounded_after : Grounded e := by
  have hg := h.before.grounded
  have hparent {b : Nat} (hb : b < d.entries.size) (hne : b ≠ x) (hp : d.parent? b ≠ some x) :
      e.parent? b = d.parent? b := h.parent b hb hne hp
  have hone : d.IsIn ["html"] 1 := h.before.isIn_one
  refine ⟨⟨h.linked, ?_, fun b hb => ?_⟩, fun b r hr => ?_, ?_, fun b => ?_, ?_⟩
  · exact (h.keeps.root_iff (lt_of_content? hg.rooted.content)).mpr hg.rooted.content
  · rcases Nat.lt_or_ge b d.entries.size with hlt | hge
    · have hroot := (h.keeps.root_iff hlt).mp hb
      have hfree := hg.rooted.free b hroot
      rw [hparent hlt (fun heq => h.block_not_root (heq ▸ hroot)) (by simp [hfree]), hfree]
    · exact absurd hb (h.new b _ hge hb).not_root
  · rcases Nat.lt_or_ge b d.entries.size with hlt | hge
    · rw [h.keeps.inside b hlt] at hr
      have hroot := hg.inside b r hr
      exact (h.keeps.root_iff (lt_of_content? hroot)).mpr hroot
    · rw [h.inside b hge] at hr
      cases hr
  · rw [hparent hone.lt_size (h.ne_block (hone.mono (by decide))), hg.page]
    rw [hg.page]
    intro heq
    exact h.block_not_root (Option.some.inj heq ▸ hg.rooted.content)
  · rcases Nat.lt_or_ge b d.entries.size with hlt | hge
    · rw [h.isIn_iff hlt, hg.html_iff]
    · have hne : b ≠ 1 := fun heq => Nat.not_lt.mpr hge (heq ▸ hone.lt_size)
      simp only [hne, iff_false]
      exact fun hin => (h.isIn_of_new hge hin).not_of_disjoint (by decide) hin
  · obtain ⟨b, hhead, hin, hp⟩ := hg.head
    refine ⟨b, h.keeps.head.trans hhead, (h.isIn_iff hin.lt_size).mpr hin, ?_⟩
    rw [hparent hin.lt_size (h.ne_block (hin.mono (by decide))), hp]
    rw [hp]
    exact fun heq => h.ne_block (hone.mono (by decide)) (Option.some.inj heq)

/-- Of the elements that were open, all but formatting elements still are. -/
theorem mem_after (hb : b ∈ d.stack) (hin : d.IsIn pillars b) : b ∈ e.stack := by
  rw [h.stack_before] at hb
  rw [h.stack_after]
  rcases List.mem_append.mp hb with hb | hb
  · exact List.mem_append_left _ hb
  · refine List.mem_append_right _ ?_
    rcases List.mem_cons.mp hb with rfl | hb
    · simp
    · rcases List.mem_append.mp hb with hb | hb
      · exact absurd hin (h.mid_plain b hb)
      · simp [hb]

theorem mem_before (hb : b ∈ e.stack) : b ∈ d.stack ∨ b ∈ j :: copies := by
  rw [h.stack_after] at hb
  rw [h.stack_before]
  simp only [List.mem_append, List.mem_cons] at hb ⊢
  tauto

theorem not_under_site_of_shut (hk : d.IsIn ["form"] k) (hshut : Shut d k) : ¬ Under d k p :=
  h.site.outside k hk.not_root fun s hs => hshut s (h.stack_before ▸ by simp [hs])

theorem shut_after (hk : d.IsIn ["form"] k) (hshut : Shut d k) : Shut e k := by
  have hkp := h.not_under_site_of_shut hk hshut
  have hkx : ¬ Under d k x := hshut x (h.stack_before ▸ by simp)
  intro s hs hks
  rcases h.mem_before hs with hold | hnew
  · exact (h.under_of_under (h.before.lt_of_mem hold) hk.lt_size hks).elim (hshut s hold) hkp
  · rcases List.mem_cons.mp hnew with rfl | hcopy
    · rcases (h.under_copy_iff hk.lt_size).mp hks with rfl | hks
      · exact hkx .refl
      · exact hkp hks
    · rcases h.under_of_under_copy hcopy hks with hmem | hks
      · exact h.ne_fresh hk.lt_size (.tail _ hmem) rfl
      · exact hkp hks

/-- A form that is open around the block is around its new place. -/
theorem under_site_of_open (hk : d.IsIn ["form"] k) (hopen : k ∈ d.stack) (hkx : Under d k x) :
    k = x ∨ Under d k p := by
  have hstacked := h.stacked
  rw [h.stack_before] at hopen
  rcases List.mem_append.mp hopen with hka | hkb
  · obtain ⟨l₁, l₂, rfl⟩ := List.append_of_mem hka
    rw [List.append_assoc] at hstacked
    exact absurd hkx (hstacked.stands.order x (by simp)).1
  rcases List.mem_cons.mp hkb with rfl | hkb
  · exact .inl rfl
  rcases List.mem_append.mp hkb with hkm | hkb
  · exact absurd (isSolid_iff.mpr (.inl hk)) (h.mid_not_solid hkm)
  · refine .inr ?_
    obtain ⟨s, hs, hsk⟩ := Nearest.exists_of_mem (isSolid_iff.mpr (.inl hk)) hkb
    have hsp := h.site.inside s hs
    rcases hsk with rfl | ⟨l₁, l₂, rfl, hkl⟩
    · rwa [ground_of_form hk] at hsp
    · -- The nearest form or template is nearer: it is around the block, so the form is around it.
      have hsx := hstacked.stands.within h.block_not_template s
        (.append (fun _ hb => h.mid_not_solid hb) hs)
      have hbelow := hstacked.drop.tail.drop
      rcases hkx.total hsx with hks | hsk
      · exact hsp.trans hks
      · exact absurd hsk (hbelow.stands.order k hkl).2

theorem movable_block : Movable d x := by
  obtain ⟨b, hb, hin⟩ := h.mid_format
  exact ⟨mid ++ below, h.stack_before ▸ List.suffix_append a _,
    .inr ⟨b, List.mem_append_left _ hb, hin⟩⟩

/-- No old element may be moved that could not be moved before. -/
theorem movable_before (hb : b < d.entries.size) (hmoves : Movable e b) : Movable d b := by
  obtain ⟨f, hf, hformat⟩ := h.mid_format
  have hmem := hmoves.mem
  rw [h.stack_after] at hmem
  rcases List.mem_append.mp hmem with hmem | hmem
  · obtain ⟨a₁, a₂, rfl⟩ := List.append_of_mem hmem
    refine ⟨a₂ ++ x :: (mid ++ below), ⟨a₁, ?_⟩, .inr ⟨f, by simp [hf], hformat⟩⟩
    rw [h.stack_before, List.append_assoc, List.cons_append]
  rcases List.mem_cons.mp hmem with rfl | hmem
  · exact absurd rfl (h.ne_fresh hb (.head _))
  rcases List.mem_cons.mp hmem with rfl | hmem
  · exact h.movable_block
  rcases List.mem_append.mp hmem with hmem | hmem
  · exact absurd rfl (h.ne_fresh hb (.tail _ hmem))
  -- What was opened before the element is the same before and after the split.
  obtain ⟨b₁, b₂, rfl⟩ := List.append_of_mem hmem
  obtain ⟨l, ⟨l', hl⟩, hmoves⟩ := hmoves
  have hnodup := h.stacked_after.nodup
  have hsame : l = b₂ := by
    rw [h.stack_after] at hl
    have hsplit : a ++ j :: x :: (copies ++ (b₁ ++ b :: b₂)) =
        (a ++ j :: x :: (copies ++ b₁)) ++ b :: b₂ := by simp
    rw [hsplit] at hl hnodup
    have hnot := (List.nodup_middle.mp (hl ▸ hnodup)).notMem
    rw [List.mem_append, not_or] at hnot
    exact ((List.append_cons_inj_of_notMem hnot.1 hnot.2).mp hl).2.2
  subst hsame
  have hold {c : Nat} (hc : c ∈ b :: l) : c < d.entries.size :=
    h.lt_below (List.mem_append_right _ hc)
  refine ⟨l, ⟨a ++ x :: (mid ++ b₁), ?_⟩, hmoves.imp (h.isIn_iff hb).mp ?_⟩
  · rw [h.stack_before]
    simp
  · rintro ⟨c, hc, hin⟩
    exact ⟨c, hc, (h.isIn_iff (hold (.tail _ hc))).mp hin⟩

/-- What is moored in a closed form is not in the block if the block is in the form, and where the
form is in the block, the new place is outside. -/
theorem moored_after (hk : d.IsIn ["form"] k) (hclosed : k ∉ d.stack) (hi : Moored d k i) :
    Moored e k i := by
  have hilt : i < d.entries.size := hi.under.lt_size hk.lt_size
  have hout (hxi : Under d x i) : ¬ Under d k x := fun hkx =>
    hi.fixed x h.movable_block hkx hxi
  have hsite (hxi : Under d x i) : ¬ Under d k p := fun hkp => by
    rcases hi.under.total hxi with hkx | hxk
    · exact hout hxi hkx
    · exact h.not_under_site (hkp.trans hxk)
  refine ⟨h.under_keeps hk.lt_size hi.under fun hxi hkx => absurd hkx (hout hxi),
    fun s hs hks hsi => ?_⟩
  rcases h.mem_before hs.mem with hold | hnew
  · have hslt := h.before.lt_of_mem hold
    by_cases hks' : Under d k s
    · have hnot := hi.fixed s (h.movable_before hslt hs) hks'
      have hsp := (h.under_of_under hilt hslt hsi).resolve_left hnot
      by_cases hxi : Under d x i
      · exact hsite hxi (hsp.trans hks')
      · exact hnot ((h.under_outside_iff hilt hxi).mp hsi)
    · have hkp := (h.under_of_under hslt hk.lt_size hks).resolve_left hks'
      by_cases hxs : Under d x s
      · rcases h.under_of_under hilt hslt hsi with hsi | hsp
        · exact hsite (hsi.trans hxs) hkp
        · exact h.not_under_site (hsp.trans hxs)
      · exact hks' ((h.under_outside_iff hslt hxs).mp hks)
  · have hkp : Under d k p := by
      rcases List.mem_cons.mp hnew with rfl | hcopy
      · refine ((h.under_copy_iff hk.lt_size).mp hks).resolve_left ?_
        rintro rfl
        exact hclosed (h.stack_before ▸ by simp)
      · exact (h.under_of_under_copy hcopy hks).resolve_left fun hmem =>
          h.ne_fresh hk.lt_size (.tail _ hmem) rfl
    by_cases hxi : Under d x i
    · exact hsite hxi hkp
    · exact h.not_under_fresh hnew hilt hxi hsi

theorem leads (hform : e.form = d.form) (hmode : e.mode = d.mode)
    (htemplates : e.templateModes = d.templateModes)
    (hformats : Formatted e) : Leads d e where
  before := h.before
  sound := by
    refine ⟨h.grounded_after, h.stack_after ▸ h.stacked_after, ?_, hformats, fun k hk => ?_, ?_,
      fun m hm => h.before.templates m (htemplates ▸ hm)⟩
    · have hbottom := h.before.bottom
      have hlast {l : List Nat} : (l ++ below).getLast? = below.getLast? :=
        List.getLast?_append_of_ne_nil _ h.below_ne_nil
      rw [h.stack_before, ← List.cons_append, ← List.append_assoc, hlast] at hbottom
      rw [h.stack_after, ← List.cons_append, ← List.cons_append, ← List.append_assoc, hlast,
        hbottom]
    · obtain ⟨hin, hk⟩ := h.before.form k (hform ▸ hk)
      exact ⟨(h.isIn_iff hin.lt_size).mpr hin,
        hk.imp (fun hopen => h.mem_after hopen (hin.mono (by decide))) (h.shut_after hin)⟩
    · rw [hmode]
      refine ⟨h.before.mode.lasting, fun ha => ?_⟩
      obtain ⟨b, hb, hin⟩ := h.before.mode.anchored ha
      exact ⟨b, h.mem_after hb (hin.mono (anchors_subset_pillars _)),
        (h.isIn_iff hin.lt_size).mpr hin⟩
  keeps := h.keeps
  stays_closed b hb hclosed hopen := (h.mem_before hopen).elim hclosed fun hnew =>
    h.ne_fresh hb hnew rfl
  stays b hb hclosed hparent := by
    have hx : x ∈ d.stack := h.stack_before ▸ by simp
    refine h.parent b hb (fun heq => hclosed (heq ▸ hx)) fun hp => hparent x hp hx
  shut k hk hshut := ⟨h.shut_after hk hshut, fun b hb hu =>
    (h.under_of_under hb hk.lt_size hu).resolve_right (h.not_under_site_of_shut hk hshut)⟩
  under k hk hopen b hb :=
    h.under_keeps hk.lt_size hb fun _ hkx => h.under_site_of_open hk hopen hkx
  moored k hk hclosed i hi := h.moored_after hk hclosed hi
  form_open k hk hopen := .inl (h.mem_after hopen (hk.mono (by decide)))
  new b hge hcontrol := (h.isIn_of_new hge hcontrol).not_of_disjoint (by decide) hcontrol

end Splits

end PluginRelease.Html.Draft
