import PluginRelease.Descriptor.Basic
import PluginRelease.Proofs.Text.Blank
import PluginRelease.Proofs.Text.Decimal

/-!
The number of an ID. White space around the digits and zeros before them do not matter.
-/
namespace PluginRelease.Descriptor
open Text

/-- An ID that is the decimal numeral of a number, white space and leading zeros aside. -/
def Denotes (id : String) (n : Nat) : Prop :=
  ∃ k, trim id.toList = List.replicate k '0' ++ Nat.toDigits 10 n

theorem Denotes.decimalValue_eq {id : String} {n : Nat} (h : Denotes id n) :
    decimalValue (trim id.toList) = n := by
  obtain ⟨k, hk⟩ := h
  rw [hk, decimalValue_zeros_append, decimalValue_toDigits]

/-- A run of digits denotes its value. -/
theorem denotes_of_digits {id : String} (hne : id.toList ≠ [])
    (hdigits : ∀ c ∈ id.toList, c.isDigit = true) : Denotes id (decimalValue id.toList) := by
  obtain ⟨k, hk⟩ := exists_eq_zeros_append hne hdigits
  refine ⟨k, ?_⟩
  rw [trim_eq_self, ← hk]
  intro c hc
  exact isBlank_of_isDecimalDigit (isDecimalDigit_of_isDigit (hdigits c hc))

theorem idNumber?_eq_some_iff {id : String} {n : Nat} :
    idNumber? id = some n ↔ Denotes id n ∧ 0 < n ∧ n < idLimit := by
  unfold idNumber?
  dsimp only
  constructor
  · intro h
    split at h
    · cases h
    · next hdigits =>
      simp only [Bool.or_eq_true, Bool.not_eq_true', not_or, List.isEmpty_iff,
        Bool.not_eq_false, List.all_eq_true] at hdigits
      split at h
      · next hbounds =>
        obtain rfl := Option.some.inj h
        simp only [Bool.and_eq_true, decide_eq_true_eq] at hbounds
        exact ⟨exists_eq_zeros_append hdigits.1 hdigits.2, hbounds⟩
      · cases h
  · rintro ⟨hdenotes, hpos, hlimit⟩
    have hvalue := hdenotes.decimalValue_eq
    obtain ⟨k, hk⟩ := hdenotes
    have hne : trim id.toList ≠ [] := by
      intro hempty
      rw [hempty] at hk
      exact Nat.toDigits_ne_nil (List.append_eq_nil_iff.mp hk.symm).2
    have hdigits : (trim id.toList).all Char.isDigit = true := by
      rw [List.all_eq_true, hk]
      intro c hc
      exact isDigit_of_mem_numeral hc
    rw [if_neg (by simp [hne, hdigits]), hvalue, if_pos (by simp [hpos, hlimit])]

theorem numericId?_eq_some_iff {d : Descriptor} {id : String} {n : Nat} (hid : d.id = some id) :
    d.numericId? = some n ↔ Denotes id n ∧ 0 < n ∧ n < idLimit := by
  rw [numericId?, hid]
  exact idNumber?_eq_some_iff

end PluginRelease.Descriptor
