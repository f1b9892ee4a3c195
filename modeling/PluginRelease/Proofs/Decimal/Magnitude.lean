import PluginRelease.Decimal.Binary64
import Mathlib.Algebra.Order.Field.Power
import Mathlib.Algebra.Order.Field.Rat
import Mathlib.Algebra.Order.Ring.Cast
import Mathlib.Tactic.Ring

/-!
The values of magnitudes. A magnitude is a whole number of least positive ones, so the values
have the order of the magnitudes, and within a binade they lie a power of two apart.
-/
namespace PluginRelease.Binary64

/-- A magnitude counted in the least positive one. -/
def units (magnitude : Nat) : Nat :=
  if magnitude / 2 ^ 52 = 0 then magnitude
  else (magnitude % 2 ^ 52 + 2 ^ 52) * 2 ^ (magnitude / 2 ^ 52 - 1)

theorem units_zero : units 0 = 0 := rfl

/-- Within one binade the next number is one step on, and the last step leads into the next. -/
theorem units_lt_units_succ (m : Nat) : units m < units (m + 1) := by
  unfold units
  by_cases hm : m / 2 ^ 52 = 0
  · rw [if_pos hm]
    by_cases hnext : (m + 1) / 2 ^ 52 = 0
    · rw [if_pos hnext]
      exact Nat.lt_succ_self m
    · rw [if_neg hnext]
      have hbinade : (m + 1) / 2 ^ 52 = 1 := by omega
      have hstart : (m + 1) % 2 ^ 52 = 0 := by omega
      rw [hbinade, hstart]
      omega
  · rw [if_neg hm]
    have hnext : ¬ (m + 1) / 2 ^ 52 = 0 := by omega
    rw [if_neg hnext]
    have hpos : 0 < 2 ^ (m / 2 ^ 52 - 1) := Nat.two_pow_pos _
    -- a step weighs more in the next binade, so the last one of this is a case of its own
    by_cases hlast : (m + 1) % 2 ^ 52 = 0
    · have hbelow : m % 2 ^ 52 + 2 ^ 52 < 2 ^ 52 * 2 := by omega
      have hbinade : (m + 1) / 2 ^ 52 - 1 = m / 2 ^ 52 - 1 + 1 := by omega
      rw [hlast, hbinade]
      calc (m % 2 ^ 52 + 2 ^ 52) * 2 ^ (m / 2 ^ 52 - 1)
          < 2 ^ 52 * 2 * 2 ^ (m / 2 ^ 52 - 1) := Nat.mul_lt_mul_of_pos_right hbelow hpos
        _ = (0 + 2 ^ 52) * 2 ^ (m / 2 ^ 52 - 1 + 1) := by ring
    · have hbinade : (m + 1) / 2 ^ 52 = m / 2 ^ 52 := by omega
      have hstep : (m + 1) % 2 ^ 52 = m % 2 ^ 52 + 1 := by omega
      rw [hbinade, hstep]
      exact Nat.mul_lt_mul_of_pos_right (by omega) hpos

theorem strictMono_units : StrictMono units := strictMono_nat_of_lt_succ units_lt_units_succ

theorem units_lt_units_iff {m n : Nat} : units m < units n ↔ m < n := strictMono_units.lt_iff_lt

/-- A power with an exponent of either sign as a fraction. -/
theorem pow_toNat_div_pow_toNat (b : ℚ) (e : Int) : b ^ e.toNat / b ^ (-e).toNat = b ^ e := by
  rcases Int.le_total 0 e with he | he
  · have hneg : (-e).toNat = 0 := by omega
    rw [hneg, pow_zero, div_one, ← zpow_natCast, Int.toNat_of_nonneg he]
  · have hpos : e.toNat = 0 := by omega
    rw [hpos, pow_zero, one_div, ← zpow_natCast, Int.toNat_of_nonneg (by omega), zpow_neg, inv_inv]

/-- The last bit of a significand weighs a power of two of the least magnitude. -/
theorem significand_eq (m : Nat) :
    ((significand m).1 : ℚ) * 2 ^ (significand m).2 = units m * 2 ^ (-1074 : Int) := by
  by_cases hm : m / 2 ^ 52 = 0
  · have hsignificand : significand m = (m, -1074) := if_pos hm
    have hunits : units m = m := if_pos hm
    rw [hsignificand, hunits]
  · have hsignificand : significand m =
        (m % 2 ^ 52 + 2 ^ 52, ((m / 2 ^ 52 : Nat) : Int) - 1075) := if_neg hm
    have hunits : units m = (m % 2 ^ 52 + 2 ^ 52) * 2 ^ (m / 2 ^ 52 - 1) := if_neg hm
    have hweight : ((m / 2 ^ 52 : Nat) : Int) - 1075 = ((m / 2 ^ 52 - 1 : Nat) : Int) + -1074 := by
      omega
    rw [hsignificand, hunits, hweight, zpow_add₀ two_ne_zero, zpow_natCast, Nat.cast_mul,
      Nat.cast_pow, Nat.cast_ofNat, mul_assoc]

/-- The exact value of a finite magnitude. -/
def magnitudeValue (magnitude : Nat) : ℚ := (fraction magnitude).1 / (fraction magnitude).2

theorem magnitudeValue_eq (m : Nat) : magnitudeValue m = units m * 2 ^ (-1074 : Int) := by
  have hfraction : fraction m = ((significand m).1 * 2 ^ (significand m).2.toNat,
      2 ^ (-(significand m).2).toNat) := rfl
  rw [← significand_eq, ← pow_toNat_div_pow_toNat, magnitudeValue, hfraction]
  dsimp only
  rw [Nat.cast_mul, Nat.cast_pow, Nat.cast_pow, Nat.cast_ofNat, mul_div_assoc]

theorem magnitudeValue_strictMono : StrictMono magnitudeValue := by
  intro m n hmn
  have hstep : (0 : ℚ) < 2 ^ (-1074 : Int) := zpow_pos two_pos _
  rw [magnitudeValue_eq, magnitudeValue_eq, mul_lt_mul_iff_left₀ hstep, Nat.cast_lt]
  exact strictMono_units hmn

theorem magnitudeValue_zero : magnitudeValue 0 = 0 := by
  rw [magnitudeValue_eq, units_zero, Nat.cast_zero, zero_mul]

/-- A significand of 53 bits above the exponent of its last one; the carry of one that is a bit
too long goes into the exponent. -/
theorem units_add {a j : Nat} (hnormal : a = 0 ∨ 2 ^ 52 ≤ j) (hj : j ≤ 2 ^ 53) :
    units (a * 2 ^ 52 + j) = j * 2 ^ a := by
  unfold units
  rcases Nat.lt_or_ge j (2 ^ 52) with hsmall | hlarge
  · have ha : a = 0 := by omega
    rw [ha, if_pos (by omega)]
    omega
  · rcases Nat.lt_or_eq_of_le hj with hlt | rfl
    · have hbinade : (a * 2 ^ 52 + j) / 2 ^ 52 = a + 1 := by omega
      have hbits : (a * 2 ^ 52 + j) % 2 ^ 52 + 2 ^ 52 = j := by omega
      rw [hbinade, hbits, if_neg (Nat.succ_ne_zero a), Nat.add_sub_cancel]
    · have hbinade : (a * 2 ^ 52 + 2 ^ 53) / 2 ^ 52 = a + 2 := by omega
      have hbits : (a * 2 ^ 52 + 2 ^ 53) % 2 ^ 52 = 0 := by omega
      rw [hbinade, hbits, if_neg (Nat.succ_ne_zero _), Nat.add_sub_assoc (by decide)]
      ring

theorem magnitudeValue_add {e : Int} {j : Nat} (he : -1074 ≤ e)
    (hnormal : e = -1074 ∨ 2 ^ 52 ≤ j) (hj : j ≤ 2 ^ 53) :
    magnitudeValue ((e + 1074).toNat * 2 ^ 52 + j) = j * 2 ^ e := by
  have hweight : e = ((e + 1074).toNat : Int) + -1074 := by omega
  rw [magnitudeValue_eq, units_add (hnormal.imp (by omega) id) hj, Nat.cast_mul, Nat.cast_pow,
    Nat.cast_ofNat, mul_assoc, ← zpow_natCast, ← zpow_add₀ two_ne_zero, ← hweight]

end PluginRelease.Binary64
