import PluginRelease.Text.Digit

/-!
Hexadecimal numbers as they are written and read: reading gives the number back, and a number
that fits its width takes exactly that many digits.
-/
namespace PluginRelease.Text

/-- One more digit behind a number that was read. -/
def digitStep (base n : Nat) (c : Char) : Option Nat :=
  (hexDigitValue? c).bind fun d => if d < base then some (base * n + d) else none

theorem natOfDigits?_eq {base : Nat} {s : List Char} (h : s ≠ []) :
    natOfDigits? base s = s.foldlM (digitStep base) 0 := by
  simp [natOfDigits?, h]
  rfl

theorem hexDigitValue?_digitChar (upper : Bool) {d : Nat} (h : d < 16) :
    hexDigitValue? (if upper then d.digitChar.toUpper else d.digitChar) = some d := by
  have hall : ∀ u : Bool, ∀ e < 16,
      hexDigitValue? (if u then e.digitChar.toUpper else e.digitChar) = some e := by decide
  exact hall upper d h

theorem foldlM_digitStep_toDigits (upper : Bool) (n : Nat) :
    ((Nat.toDigits 16 n).map fun c => if upper then c.toUpper else c).foldlM (digitStep 16) 0 =
      some n := by
  induction n using Nat.strongRecOn with
  | _ n ih =>
    by_cases h : n < 16
    · rw [Nat.toDigits_of_lt_base h]
      simp [digitStep, hexDigitValue?_digitChar upper h, h]
    · rw [Nat.toDigits_of_base_le (by decide) (by omega)]
      have hd : n % 16 < 16 := Nat.mod_lt n (by decide)
      have hn : 16 * (n / 16) + n % 16 = n := Nat.div_add_mod n 16
      rw [List.map_append, List.foldlM_append, ih (n / 16) (by omega)]
      simp [digitStep, hexDigitValue?_digitChar upper hd, hd, hn]

theorem foldlM_digitStep_zeros (k : Nat) :
    (List.replicate k '0').foldlM (digitStep 16) 0 = some 0 := by
  induction k with
  | zero => rfl
  | succ k ih =>
    rw [List.replicate_succ, List.foldlM_cons]
    exact ih

theorem foldlM_hexDigits (upper : Bool) (width n : Nat) :
    (hexDigits upper width n).foldlM (digitStep 16) 0 = some n := by
  rw [hexDigits, List.foldlM_append, foldlM_digitStep_zeros]
  exact foldlM_digitStep_toDigits upper n

theorem toNat_of_hexDigitValue? {c : Char} {d : Nat} (h : hexDigitValue? c = some d) :
    48 ≤ c.toNat ∧ c.toNat ≤ 102 := by
  have hn : c.toNat = c.val.toNat := rfl
  unfold hexDigitValue? at h
  split at h
  · next hd =>
    simp only [Char.isDigit, Bool.and_eq_true, decide_eq_true_eq, ge_iff_le,
      UInt32.le_iff_toNat_le] at hd
    have h0 : '0'.val.toNat = 48 := rfl
    have h9 : '9'.val.toNat = 57 := rfl
    omega
  · simp only [Char.le_def, UInt32.le_iff_toNat_le] at h
    have ha : 'a'.val.toNat = 97 := rfl
    have hf : 'f'.val.toNat = 102 := rfl
    have hA : 'A'.val.toNat = 65 := rfl
    have hF : 'F'.val.toNat = 70 := rfl
    split at h
    · omega
    · split at h
      · omega
      · cases h

/-- What reads as a number has digits only. -/
theorem toNat_of_foldlM_digitStep {base n m : Nat} {s : List Char}
    (h : s.foldlM (digitStep base) n = some m) : ∀ c ∈ s, 48 ≤ c.toNat ∧ c.toNat ≤ 102 := by
  induction s generalizing n with
  | nil => simp
  | cons d ds ih =>
    rw [List.foldlM_cons] at h
    obtain ⟨v, hv, hrest⟩ := Option.bind_eq_some_iff.mp h
    obtain ⟨x, hx, -⟩ := Option.bind_eq_some_iff.mp hv
    intro c hc
    rcases List.mem_cons.mp hc with rfl | hc
    · exact toNat_of_hexDigitValue? hx
    · exact ih hrest c hc

theorem toNat_of_mem_hexDigits {upper : Bool} {width n : Nat} {c : Char}
    (h : c ∈ hexDigits upper width n) : 48 ≤ c.toNat ∧ c.toNat ≤ 102 :=
  toNat_of_foldlM_digitStep (foldlM_hexDigits upper width n) c h

theorem length_hexDigits (upper : Bool) {width n : Nat} (hw : 0 < width)
    (hn : n < Nat.pow 16 width) : (hexDigits upper width n).length = width := by
  have hle := (Nat.length_toDigits_le_iff (by decide) hw).mpr hn
  simp only [hexDigits, List.length_append, List.length_replicate, List.length_map]
  omega

end PluginRelease.Text
