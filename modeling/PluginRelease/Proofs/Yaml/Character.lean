import PluginRelease.Yaml.Writer

/-!
Characters and styles between writing and reading. A character that shows as itself may stand
in a page, and of the blanks and breaks only the space, LF and the two separators show. The
style of a text tells which of them it holds.
-/
namespace PluginRelease.Yaml
open Writer

theorem isAllowed_of_isPrintable {c : Char} (h : isPrintable c = true) : isAllowed c = true := by
  simp only [isPrintable, isAllowed, Bool.or_eq_true, Bool.and_eq_true, beq_iff_eq, bne_iff_ne,
    decide_eq_true_eq] at h ⊢
  omega

/-- Two characters differ when a test tells them apart. -/
theorem ne_of_test {p : Char → Bool} {c d : Char} (hc : p c = true) (hd : p d = false) :
    c ≠ d := by
  rintro rfl
  simp [hc] at hd

theorem isBlank_eq_isSpace {c : Char} (h : isPrintable c = true) : isBlank c = isSpace c := by
  have ht : c ≠ '\t' := ne_of_test h (by decide)
  simp [isBlank, isSpace, ht]

/-- A break that shows is read as it was written. -/
theorem keptBreak_eq_self {c : Char} (h : isPrintable c = true) (hb : isBreak c = true) :
    keptBreak c = c := by
  have hr : c ≠ '\r' := ne_of_test h (by decide)
  have hn : c ≠ nextLine := ne_of_test h (by decide)
  simp only [isBreak, Bool.or_eq_true, beq_iff_eq, hr, hn, or_false, or_assoc] at hb
  rcases hb with rfl | rfl | rfl <;> decide

/-- What follows the line of an entry: the end of the page, or a key at the first column. -/
def StartsLine (rest : List Char) : Prop := ∀ c ∈ rest.head?, c.isAlpha = true

theorem startsLine_nil : StartsLine [] := by simp [StartsLine]

theorem StartsLine.isAlpha {c : Char} {cs : List Char} (h : StartsLine (c :: cs)) :
    c.isAlpha = true := h c rfl

section Letter
variable {c : Char} (h : c.isAlpha = true)
include h

theorem isBreak_of_isAlpha : isBreak c = false := by
  rw [Bool.eq_false_iff]
  intro hb
  simp only [isBreak, Bool.or_eq_true, beq_iff_eq] at hb
  rcases hb with (((rfl | rfl) | rfl) | rfl) | rfl <;> exact absurd h (by decide)

theorem isBlank_of_isAlpha : isBlank c = false := by
  have hs : c ≠ ' ' := ne_of_test h (by decide)
  have ht : c ≠ '\t' := ne_of_test h (by decide)
  simp [isBlank, hs, ht]

theorem isStartIndicator_of_isAlpha : isStartIndicator c = false := by
  rw [Bool.eq_false_iff]
  intro hi
  have hm : ∀ d ∈ "#,[]\x7b\x7d&*!|>'\"%@`".toList, (!d.isAlpha) = true := List.all_eq_true.mp rfl
  have hc := hm c (by simpa [isStartIndicator] using hi)
  simp [h] at hc

theorem isPrintable_of_isAlpha : isPrintable c = true := by
  have hrange : (decide (c.val ≥ 'A'.val ∧ c.val ≤ 'Z'.val) ||
      (decide (c.val ≥ 'a'.val) && decide (c.val ≤ 'z'.val))) = true := h
  simp only [Bool.or_eq_true, Bool.and_eq_true, decide_eq_true_eq, ge_iff_le,
    UInt32.le_iff_toNat_le] at hrange
  have hA : 'A'.val.toNat = 65 := rfl
  have hZ : 'Z'.val.toNat = 90 := rfl
  have ha : 'a'.val.toNat = 97 := rfl
  have hz : 'z'.val.toNat = 122 := rfl
  have hn : c.toNat = c.val.toNat := rfl
  simp only [isPrintable, Bool.or_eq_true, Bool.and_eq_true, beq_iff_eq, bne_iff_ne,
    decide_eq_true_eq]
  omega

end Letter

/-! ## Styles -/

namespace Writer
variable {s : List Char}

theorem printable_of_traits (h : (traits s).hasUnprintable = false) :
    ∀ c ∈ s, isPrintable c = true :=
  fun c hc => by simpa using List.any_eq_false.mp h c hc

theorem printable_of_allowsSingle (h : (traits s).allowsSingle = true) :
    ∀ c ∈ s, isPrintable c = true := by
  rw [Traits.allowsSingle, Bool.not_eq_true', Bool.or_eq_false_iff] at h
  exact printable_of_traits h.2

theorem printable_of_allowsLiteral (h : (traits s).allowsLiteral = true) :
    ∀ c ∈ s, isPrintable c = true := by
  rw [Traits.allowsLiteral, Bool.not_eq_true', Bool.or_eq_false_iff] at h
  exact printable_of_traits h.2

/-- What a text of this style is known to be. -/
def Fits (s : List Char) : Style → Prop
  | .plain => s ≠ [] ∧ (traits s).allowsPlain = true ∧ needsQuotes s = false
  | .single => '\n' ∉ s ∧ (traits s).allowsSingle = true
  | .double => True
  | .literal => s ≠ [] ∧ ∀ c ∈ s, isPrintable c = true

theorem fits_style (s : List Char) : Fits s (style s) := by
  unfold style
  by_cases hn : s.contains '\n' = true
  · rw [if_pos hn]
    split
    · next hl =>
      refine ⟨?_, printable_of_allowsLiteral hl⟩
      rintro rfl
      exact absurd hn (by decide)
    · trivial
  · rw [if_neg hn]
    split
    · next hp =>
      rw [Bool.and_eq_true, Bool.not_eq_true'] at hp
      refine ⟨?_, hp⟩
      rintro rfl
      exact absurd hp.2 (by decide)
    · split
      · next hs => exact ⟨by simpa using hn, hs⟩
      · trivial

end Writer
end PluginRelease.Yaml
