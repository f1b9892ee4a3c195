import PluginRelease.Text.Digit
import Mathlib.Algebra.Group.Nat.Defs

/-!
Decimal numerals. A run of digits is the numeral of its number behind some zeros, so the digits
say which number is meant and no other number is read from them.
-/
namespace PluginRelease.Text

theorem toNat_of_isDigit {c : Char} (h : c.isDigit = true) : 48 ≤ c.toNat ∧ c.toNat ≤ 57 := by
  simp only [Char.isDigit, Bool.and_eq_true, decide_eq_true_eq] at h
  exact ⟨UInt32.le_iff_toNat_le.mp h.1, UInt32.le_iff_toNat_le.mp h.2⟩

theorem digitValue_lt {c : Char} (h : c.isDigit = true) : digitValue c < 10 := by
  have hc := toNat_of_isDigit h
  have hzero : '0'.toNat = 48 := rfl
  unfold digitValue
  omega

theorem digitChar_digitValue {c : Char} (h : c.isDigit = true) :
    Nat.digitChar (digitValue c) = c := by
  have hc := toNat_of_isDigit h
  have hzero : '0'.toNat = 48 := rfl
  apply Char.toNat_inj.mp
  rw [Nat.toNat_digitChar_of_lt_ten (digitValue_lt h), digitValue]
  omega

theorem decimalValue_toDigits (n : Nat) : decimalValue (Nat.toDigits 10 n) = n :=
  Nat.ofDigitChars_ten_toDigits

theorem decimalValue_append (s t : List Char) :
    decimalValue (s ++ t) = 10 ^ t.length * decimalValue s + decimalValue t := by
  change Nat.ofDigitChars 10 (s ++ t) 0 = _
  rw [Nat.ofDigitChars_append, Nat.ofDigitChars_eq_ofDigitChars_zero]
  rfl

theorem decimalValue_zeros_append (k : Nat) (s : List Char) :
    decimalValue (List.replicate k '0' ++ s) = decimalValue s := by
  change Nat.ofDigitChars 10 (List.replicate k '0' ++ s) 0 = _
  rw [Nat.ofDigitChars_append, Nat.ofDigitChars_replicate_zero, Nat.mul_zero]
  rfl

/-- Digits behind a number that is not zero are the last digits of its numeral. -/
theorem toDigits_ofDigitChars {n : Nat} (hn : 0 < n) {s : List Char}
    (hs : ∀ c ∈ s, c.isDigit = true) :
    Nat.toDigits 10 (Nat.ofDigitChars 10 s n) = Nat.toDigits 10 n ++ s := by
  induction s generalizing n with
  | nil => exact (List.append_nil _).symm
  | cons c cs ih =>
    have hc := hs c List.mem_cons_self
    have hdigit := digitValue_lt hc
    have hrest := ih (n := 10 * n + digitValue c) (by omega)
      fun d hd => hs d (List.mem_cons_of_mem c hd)
    calc Nat.toDigits 10 (Nat.ofDigitChars 10 cs (10 * n + digitValue c))
        = Nat.toDigits 10 (10 * n + digitValue c) ++ cs := hrest
      _ = Nat.toDigits 10 n ++ Nat.toDigits 10 (digitValue c) ++ cs := by
        rw [Nat.toDigits_append_toDigits (by decide) hn hdigit]
      _ = Nat.toDigits 10 n ++ c :: cs := by
        rw [Nat.toDigits_of_lt_base hdigit, digitChar_digitValue hc]
        simp

/-- A run of digits is a numeral behind some zeros. -/
theorem exists_eq_zeros_append {s : List Char} (hne : s ≠ []) (hs : ∀ c ∈ s, c.isDigit = true) :
    ∃ k, s = List.replicate k '0' ++ Nat.toDigits 10 (decimalValue s) := by
  induction s with
  | nil => exact absurd rfl hne
  | cons c cs ih =>
    have hc := hs c List.mem_cons_self
    have hcs : ∀ d ∈ cs, d.isDigit = true := fun d hd => hs d (List.mem_cons_of_mem c hd)
    by_cases hzero : c = '0'
    · subst hzero
      by_cases hempty : cs = []
      · exact ⟨0, by rw [hempty]; rfl⟩
      · obtain ⟨k, hk⟩ := ih hempty hcs
        have hvalue : decimalValue ('0' :: cs) = decimalValue cs := decimalValue_zeros_append 1 cs
        refine ⟨k + 1, ?_⟩
        rw [hvalue, List.replicate_succ, List.cons_append, ← hk]
    · have hpos : 0 < digitValue c := by
        rcases Nat.eq_zero_or_pos (digitValue c) with hd | hd
        · have hself := digitChar_digitValue hc
          rw [hd] at hself
          exact absurd hself.symm hzero
        · exact hd
      refine ⟨0, ?_⟩
      have hvalue : decimalValue (c :: cs) = Nat.ofDigitChars 10 cs (digitValue c) := by
        change Nat.ofDigitChars 10 cs (10 * 0 + digitValue c) = _
        rw [Nat.mul_zero, Nat.zero_add]
      rw [hvalue, toDigits_ofDigitChars hpos hcs, Nat.toDigits_of_lt_base (digitValue_lt hc),
        digitChar_digitValue hc]
      rfl

theorem isDigit_of_mem_numeral {k n : Nat} {c : Char}
    (h : c ∈ List.replicate k '0' ++ Nat.toDigits 10 n) : c.isDigit = true := by
  rcases List.mem_append.mp h with h | h
  · rw [List.eq_of_mem_replicate h]
    rfl
  · exact Nat.isDigit_of_mem_toDigits (by decide) (by decide) h

end PluginRelease.Text
