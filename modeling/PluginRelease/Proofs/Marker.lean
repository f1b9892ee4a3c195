import PluginRelease.Proofs.Marker.Search
import PluginRelease.Proofs.Text.Decimal

/-!
Marker lines. What a file is searched for stands on one of its lines, and an ID on such a line
is a run of digits that is not zero.
-/
namespace PluginRelease.Marker
open Text

/-! ## Sources -/

theorem findFirst_singleton {w : Workspace} {p : Path} {ls : List String}
    (parse : String → Option String) (h : sourceLines w p = .ok ls) :
    findFirst w parse [p] = .ok (ls.findSome? parse) := by
  unfold findFirst
  rw [h]
  simp only [bind, Except.bind]
  cases ls.findSome? parse with
  | none => rfl
  | some found => rfl

section Found
variable {w : Workspace} {parse : String → Option String} {ps : List Path}

/-- What is found stands on a line of one of the files. -/
theorem exists_of_findFirst {found : String} (h : findFirst w parse ps = .ok (some found)) :
    ∃ p ∈ ps, ∃ ls, sourceLines w p = .ok ls ∧ ∃ line ∈ ls, parse line = some found := by
  obtain ⟨before, p, after, rfl, hends⟩ := exists_end h (by simp)
  cases hends with
  | @accepted _ _ line _ hlines _ hline => exact ⟨p, by simp, _, hlines, line, by simp, hline⟩

/-- A search of the sources fails at one that cannot be read. -/
theorem exists_of_findFirst_error {f : Failure} (h : findFirst w parse ps = .error f) :
    ∃ p ∈ ps, sourceLines w p = .error f := by
  obtain ⟨before, p, after, rfl, hends⟩ := exists_end h (by simp)
  cases hends with
  | unreadable hread => exact ⟨p, by simp, sourceLines_of_error hread⟩

end Found

/-! ## Script IDs -/

/-- A scanned ID is a run of digits, not all of them zeros. -/
theorem digits_of_scriptId? {name line id : String} (h : scriptId? name line = some id) :
    (∀ c ∈ id.toList, isDecimalDigit c = true) ∧ countsAsId id.toList = true := by
  obtain ⟨-, hdigits, hnonzero⟩ := scriptId?_eq_some_iff.mp h
  exact ⟨hdigits.digits, countsAsId_iff.mpr hnonzero⟩

theorem ne_nil_of_countsAsId {s : List Char} (h : countsAsId s = true) : s ≠ [] := by
  rintro rfl
  exact absurd h (by decide)

theorem decimalValue_pos {s : List Char} (hcounts : countsAsId s = true)
    (hdigits : ∀ c ∈ s, c.isDigit = true) : 0 < decimalValue s := by
  rcases Nat.eq_zero_or_pos (decimalValue s) with hzero | hpos
  · have hne := ne_nil_of_countsAsId hcounts
    obtain ⟨k, hk⟩ := exists_eq_zeros_append hne hdigits
    rw [hzero] at hk
    obtain ⟨c, hc, hvalue⟩ := List.any_eq_true.mp hcounts
    have hc0 : c = '0' := by
      rw [hk] at hc
      rcases List.mem_append.mp hc with hc | hc
      · exact List.eq_of_mem_replicate hc
      · exact List.mem_singleton.mp hc
    rw [hc0] at hvalue
    exact absurd hvalue (by decide)
  · exact hpos

end PluginRelease.Marker
