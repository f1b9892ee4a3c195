import PluginRelease.Tag

/-!
The order of tags. It is that of their values, and of their names where the value is zero, so
it is transitive and total, and a list of tags has one latest tag.
-/
namespace PluginRelease

namespace Binary64

/-- A signed number that grows with the value. -/
def rank (x : Binary64) : Int := if x.negative then -x.magnitude else x.magnitude

theorem rank_eq_zero_iff (x : Binary64) : x.rank = 0 ↔ x.IsZero := by
  unfold rank IsZero
  split <;> omega

theorem compare_eq_compare_rank (x y : Binary64) :
    compare x y = Ord.compare x.rank y.rank := by
  unfold compare rank
  simp only [Nat.compare_eq_ite_lt, Int.compare_eq_ite_lt]
  cases x.negative <;> cases y.negative <;> grind

end Binary64

namespace Tag

/-- The order of a tag by its value. -/
def rank (tag : String) : Int := (value tag).rank

/-- Tags have the order of their values, and those that are worth zero that of their names. -/
theorem compare_eq_then (a b : String) :
    compare a b =
      (Ord.compare (rank a) (rank b)).then (if rank a = 0 then Ord.compare a b else .eq) := by
  simp only [compare, ← Binary64.rank_eq_zero_iff, Binary64.compare_eq_compare_rank]
  change (if rank a = 0 ∧ rank b = 0 then _ else Ord.compare (rank a) (rank b)) = _
  split
  · next hzero => simp [hzero]
  · next hzero =>
    split
    · have hne : Ord.compare (rank a) (rank b) ≠ .eq := by
        rw [Ne, Int.compare_eq_eq]
        omega
      cases h : Ord.compare (rank a) (rank b) <;> simp_all
    · cases Ord.compare (rank a) (rank b) <;> rfl

theorem compare_text_eq_gt_iff {a b : String} : Ord.compare a b = .gt ↔ ¬ a ≤ b := by
  change (if a < b then Ordering.lt else if a = b then .eq else .gt) = .gt ↔ _
  rw [← String.not_lt, Decidable.not_not]
  split
  · next hlt => simp [String.lt_asymm hlt]
  · next hge =>
    split
    · next heq => simp [heq]
    · next hne =>
      have hgt : b < a := by
        rw [← String.not_le]
        intro hle
        exact hne (String.le_antisymm hle (String.not_lt.mp hge))
      simp [hgt]

theorem compare_ne_gt_iff {a b : String} :
    compare a b ≠ .gt ↔ rank a < rank b ∨ rank a = rank b ∧ (rank a = 0 → a ≤ b) := by
  rw [compare_eq_then, Ne, Ordering.then_eq_gt, Int.compare_eq_gt, Int.compare_eq_eq]
  by_cases hzero : rank a = 0
  · rw [if_pos hzero, compare_text_eq_gt_iff]
    grind
  · rw [if_neg hzero]
    grind

theorem compare_eq_eq_iff {a b : String} :
    compare a b = .eq ↔ rank a = rank b ∧ (rank a = 0 → a = b) := by
  rw [compare_eq_then, Ordering.then_eq_eq, Int.compare_eq_eq]
  by_cases hzero : rank a = 0
  · simp [hzero]
  · simp [hzero]

theorem compare_eq_eq_symm {a b : String} (h : compare a b = .eq) : compare b a = .eq := by
  rw [compare_eq_eq_iff] at h ⊢
  exact ⟨h.1.symm, fun hzero => (h.2 (h.1.trans hzero)).symm⟩

theorem compare_eq_eq_of_ne_gt {a b : String} (hab : compare a b ≠ .gt) (hba : compare b a ≠ .gt) :
    compare a b = .eq := by
  rw [compare_ne_gt_iff] at hab hba
  rw [compare_eq_eq_iff]
  rcases hab with hab | ⟨hrank, hle⟩
  · rcases hba with hba | ⟨hrank, -⟩
    · omega
    · omega
  · rcases hba with hba | ⟨-, hge⟩
    · omega
    · exact ⟨hrank, fun hzero => String.le_antisymm (hle hzero) (hge (hrank ▸ hzero))⟩

theorem compare_ne_gt_trans {a b c : String} (hab : compare a b ≠ .gt) (hbc : compare b c ≠ .gt) :
    compare a c ≠ .gt := by
  rw [compare_ne_gt_iff] at hab hbc ⊢
  rcases hab with hab | ⟨hab, hab'⟩ <;> rcases hbc with hbc | ⟨hbc, hbc'⟩
  · left; omega
  · left; omega
  · left; omega
  · exact .inr ⟨hab.trans hbc, fun h => String.le_trans (hab' h) (hbc' (hab ▸ h))⟩

theorem compare_ne_gt_total (a b : String) : compare a b ≠ .gt ∨ compare b a ≠ .gt := by
  rw [compare_ne_gt_iff, compare_ne_gt_iff]
  rcases Int.lt_trichotomy (rank a) (rank b) with hlt | heq | hlt
  · exact .inl (.inl hlt)
  · rcases String.le_total a b with hle | hle
    · exact .inl (.inr ⟨heq, fun _ => hle⟩)
    · exact .inr (.inr ⟨heq.symm, fun _ => hle⟩)
  · exact .inr (.inl hlt)

variable {tags : List String}

theorem sort_perm (tags : List String) : (sort tags).Perm tags := List.mergeSort_perm tags _

theorem exists_latest? (hne : tags ≠ []) : ∃ t, latest? tags = some t := by
  unfold latest?
  cases h : (sort tags).getLast? with
  | none =>
    rw [List.getLast?_eq_none_iff] at h
    have hperm := sort_perm tags
    rw [h] at hperm
    exact absurd hperm.nil_eq.symm hne
  | some t => exact ⟨t, rfl⟩

theorem bne_gt_trans (a b c : String) (hab : (compare a b != .gt) = true)
    (hbc : (compare b c != .gt) = true) : (compare a c != .gt) = true := by
  rw [bne_iff_ne] at hab hbc ⊢
  exact compare_ne_gt_trans hab hbc

theorem bne_gt_total (a b : String) : (compare a b != .gt || compare b a != .gt) = true := by
  rw [Bool.or_eq_true, bne_iff_ne, bne_iff_ne]
  exact compare_ne_gt_total a b

theorem pairwise_sort (tags : List String) :
    (sort tags).Pairwise fun a b => compare a b ≠ .gt := by
  have hsorted := List.pairwise_mergeSort bne_gt_trans bne_gt_total tags
  exact hsorted.imp fun h => bne_iff_ne.mp h

/-- Tags that are level with one another keep their order. -/
theorem filter_sort {p : String → Bool}
    (hlevel : ∀ a ∈ tags, p a = true → ∀ b ∈ tags, p b = true → compare a b ≠ .gt) :
    (sort tags).filter p = tags.filter p := by
  have hpairs : (tags.filter p).Pairwise fun a b => (compare a b != .gt) = true := by
    refine List.pairwise_of_forall_mem_list fun a ha b hb => ?_
    rw [List.mem_filter] at ha hb
    exact bne_iff_ne.mpr (hlevel a ha.1 ha.2 b hb.1 hb.2)
  have hkept : (tags.filter p).Sublist (sort tags) :=
    List.sublist_mergeSort bne_gt_trans bne_gt_total hpairs List.filter_sublist
  have hsub := hkept.filter p
  rw [List.filter_filter] at hsub
  simp only [Bool.and_self] at hsub
  exact (hsub.eq_of_length ((sort_perm tags).filter p).length_eq.symm).symm

/-- No tag of the list ranks above this one. -/
def isHighest (tags : List String) (t : String) : Bool := tags.all fun s => compare s t != .gt

theorem isHighest_iff {t : String} : isHighest tags t = true ↔ ∀ s ∈ tags, compare s t ≠ .gt := by
  simp [isHighest]

/-- The latest tag is the last of the highest. -/
theorem latest?_eq (tags : List String) :
    latest? tags = (tags.filter (isHighest tags)).getLast? := by
  rw [← filter_sort fun a ha _ b _ hb => isHighest_iff.mp hb a ha]
  unfold latest?
  have hsorted := pairwise_sort tags
  have hmem (s : String) : s ∈ sort tags ↔ s ∈ tags := (sort_perm tags).mem_iff
  cases h : (sort tags).getLast? with
  | none => simp_all
  | some t =>
    obtain ⟨before, hsort⟩ := List.getLast?_eq_some_iff.mp h
    have hhighest : isHighest tags t = true := by
      rw [isHighest_iff]
      intro s hs
      rw [← hmem, hsort] at hs
      rw [hsort] at hsorted
      rcases List.mem_append.mp hs with hs | hs
      · exact (List.pairwise_append.mp hsorted).2.2 s hs t (by simp)
      · obtain rfl := List.mem_singleton.mp hs
        simp [compare_eq_then]
    simp [hsort, hhighest]

end Tag
end PluginRelease
