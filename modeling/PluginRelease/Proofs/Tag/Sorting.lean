import PluginRelease.Proofs.Tag.Order

/-!
Sorted tags and the latest one. Sorting rearranges the tags and keeps the order of level ones,
so the tag at the end is, among those that no tag ranks above, the last of the list.
-/
namespace PluginRelease.Tag

theorem getLast?_filter_eq_some_iff {p : String → Bool} {tags : List String} {t : String} :
    (tags.filter p).getLast? = some t ↔
      ∃ before after, tags = before ++ t :: after ∧ p t = true ∧ ∀ u ∈ after, p u = false := by
  rw [List.getLast?_eq_head?_reverse, ← List.filter_reverse, List.head?_filter,
    List.find?_eq_some_iff_append]
  constructor
  · rintro ⟨ht, later, earlier, hreverse, hlater⟩
    refine ⟨earlier.reverse, later.reverse, ?_, ht, ?_⟩
    · rw [← List.reverse_reverse tags, hreverse]
      simp
    · intro u hu
      simpa using hlater u (List.mem_reverse.mp hu)
  · rintro ⟨before, after, rfl, ht, hafter⟩
    refine ⟨ht, after.reverse, before.reverse, by simp, ?_⟩
    intro u hu
    simpa using hafter u (List.mem_reverse.mp hu)

theorem isHighest_eq_false_iff {tags : List String} {u : String} :
    isHighest tags u = false ↔ ∃ s ∈ tags, compare s u = .gt := by
  rw [← Bool.not_eq_true, isHighest_iff]
  simp

theorem latest?_eq_some_iff {tags : List String} {t : String} :
    latest? tags = some t ↔ ∃ before after, tags = before ++ t :: after ∧
      (∀ s ∈ tags, compare s t ≠ .gt) ∧ ∀ u ∈ after, ∃ s ∈ tags, compare s u = .gt := by
  rw [latest?_eq, getLast?_filter_eq_some_iff]
  simp only [isHighest_iff, isHighest_eq_false_iff]

theorem latest?_eq_none_iff {tags : List String} : latest? tags = none ↔ tags = [] := by
  constructor
  · intro hnone
    refine Decidable.byContradiction fun hne => ?_
    obtain ⟨t, hsome⟩ := exists_latest? hne
    rw [hnone] at hsome
    cases hsome
  · rintro rfl
    rw [latest?_eq, List.filter_nil, List.getLast?_nil]

theorem latest?_mem {tags : List String} {t : String} (h : latest? tags = some t) : t ∈ tags := by
  obtain ⟨before, after, rfl, -⟩ := latest?_eq_some_iff.mp h
  simp

theorem compare_latest?_ne_gt {tags : List String} {s t : String} (h : latest? tags = some t)
    (hs : s ∈ tags) : compare s t ≠ .gt := by
  obtain ⟨-, -, -, hhighest, -⟩ := latest?_eq_some_iff.mp h
  exact hhighest s hs

/-- Where only equal tags are level, the latest tag does not depend on the order of the list. -/
theorem latest?_eq_of_perm {tags other : List String} (hperm : other.Perm tags)
    (hdistinct : ∀ a ∈ tags, ∀ b ∈ tags, compare a b = .eq → a = b) :
    latest? other = latest? tags := by
  cases hlatest : latest? tags with
  | none =>
    rw [latest?_eq_none_iff] at hlatest ⊢
    rw [hlatest] at hperm
    exact hperm.eq_nil
  | some t =>
    have ht := latest?_mem hlatest
    have hne : other ≠ [] := by
      rintro rfl
      exact List.not_mem_nil (hperm.mem_iff.mpr ht)
    obtain ⟨u, hu⟩ := exists_latest? hne
    have hmem : u ∈ tags := hperm.mem_iff.mp (latest?_mem hu)
    -- each of the two is in both lists, so neither ranks above the other
    have hut : compare u t ≠ .gt := compare_latest?_ne_gt hlatest hmem
    have htu : compare t u ≠ .gt := compare_latest?_ne_gt hu (hperm.mem_iff.mpr ht)
    rw [hu, hdistinct u hmem t ht (compare_eq_eq_of_ne_gt hut htu)]

/-- Level tags keep their order when the list is sorted. -/
theorem filter_level_sort (tags : List String) (t : String) :
    (sort tags).filter (fun s => compare s t == .eq) =
      tags.filter (fun s => compare s t == .eq) := by
  apply filter_sort
  intro a _ hat b _ hbt
  rw [beq_iff_eq] at hat hbt
  have htb := compare_eq_eq_symm hbt
  apply compare_ne_gt_trans
  · rw [hat]
    exact Ordering.noConfusion
  · rw [htb]
    exact Ordering.noConfusion

/-- Sorting is stable and leads up to the last of the highest tags. -/
theorem sort_stable_and_latest (tags : List String) :
    ((sort tags).Perm tags ∧
      (sort tags).Pairwise (fun a b => compare a b ≠ .gt) ∧
      ∀ t, (sort tags).filter (fun s => compare s t == .eq) =
        tags.filter (fun s => compare s t == .eq)) ∧
    (latest? tags = none ↔ tags = []) ∧
    (∀ t, latest? tags = some t ↔ ∃ before after, tags = before ++ t :: after ∧
      (∀ s ∈ tags, compare s t ≠ .gt) ∧ ∀ u ∈ after, ∃ s ∈ tags, compare s u = .gt) ∧
    ∀ other : List String, other.Perm tags →
      (∀ a ∈ tags, ∀ b ∈ tags, compare a b = .eq → a = b) → latest? other = latest? tags := by
  refine ⟨⟨sort_perm tags, pairwise_sort tags, filter_level_sort tags⟩, ?_, ?_, ?_⟩
  · exact latest?_eq_none_iff
  · exact fun t => latest?_eq_some_iff
  · exact fun other hperm hdistinct => latest?_eq_of_perm hperm hdistinct

end PluginRelease.Tag
