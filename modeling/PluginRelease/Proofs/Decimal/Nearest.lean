import PluginRelease.Proofs.Decimal.Magnitude
import Mathlib.Algebra.Order.Ring.Abs
import Mathlib.Algebra.Order.Floor.Semifield
import Mathlib.Data.Rat.Floor
import Mathlib.Tactic.FieldSimp
import Mathlib.Tactic.Linarith

/-!
Rounding to the nearest number. Which magnitude is nearest depends on the number alone, not on
the fraction it is given as, and a larger number is not rounded to a smaller one.
-/
namespace PluginRelease.Binary64

/-- The magnitude that a number from zero on is rounded to: no other is nearer, and where another
is as near, it is the even one. Infinity takes part as the power of two above the finite ones. -/
structure IsNearest (q : ℚ) (m : Nat) : Prop where
  le_infinity : m ≤ infinity
  nearer : ∀ n ≤ infinity, |q - magnitudeValue m| ≤ |q - magnitudeValue n|
  even : ∀ n ≤ infinity, n ≠ m → |q - magnitudeValue m| = |q - magnitudeValue n| → m % 2 = 0

variable {p q : ℚ} {m n : Nat}

theorem magnitudeValue_lt_iff : magnitudeValue m < magnitudeValue n ↔ m < n :=
  magnitudeValue_strictMono.lt_iff_lt

theorem magnitudeValue_le_iff : magnitudeValue m ≤ magnitudeValue n ↔ m ≤ n :=
  magnitudeValue_strictMono.le_iff_le

/-! ## Midpoints -/

/-- What is nearer to the upper of two numbers lies above their midpoint. -/
theorem upper_nearer_iff {x a b : ℚ} (hab : a < b) : |x - b| ≤ |x - a| ↔ a + b ≤ 2 * x := by
  rw [← sq_le_sq]
  constructor
  · intro h
    nlinarith
  · intro h
    nlinarith

theorem lower_nearer_iff {x a b : ℚ} (hab : a < b) : |x - a| ≤ |x - b| ↔ 2 * x ≤ a + b := by
  rw [← sq_le_sq]
  constructor
  · intro h
    nlinarith
  · intro h
    nlinarith

theorem isNearest_of_midpoints (hm : m ≤ infinity)
    (hbelow : ∀ n < m, magnitudeValue n + magnitudeValue m < 2 * q ∨
      magnitudeValue n + magnitudeValue m = 2 * q ∧ m % 2 = 0)
    (habove : ∀ n, m < n → n ≤ infinity → 2 * q < magnitudeValue m + magnitudeValue n ∨
      2 * q = magnitudeValue m + magnitudeValue n ∧ m % 2 = 0) : IsNearest q m := by
  refine ⟨hm, fun n hn => ?_, fun n hn hne heq => ?_⟩
  · rcases Nat.lt_trichotomy n m with hlt | rfl | hgt
    · rw [upper_nearer_iff (magnitudeValue_lt_iff.mpr hlt)]
      rcases hbelow n hlt with h | ⟨h, -⟩
      · exact h.le
      · exact h.le
    · exact le_rfl
    · rw [lower_nearer_iff (magnitudeValue_lt_iff.mpr hgt)]
      rcases habove n hgt hn with h | ⟨h, -⟩
      · exact h.le
      · exact h.le
  · rcases Nat.lt_or_gt_of_ne hne with hlt | hgt
    · have hmid := (lower_nearer_iff (magnitudeValue_lt_iff.mpr hlt)).mp heq.ge
      rcases hbelow n hlt with h | ⟨-, heven⟩
      · linarith
      · exact heven
    · have hmid := (upper_nearer_iff (magnitudeValue_lt_iff.mpr hgt)).mp heq.ge
      rcases habove n hgt hn with h | ⟨-, heven⟩
      · linarith
      · exact heven

/-- Rounding keeps the order. -/
theorem IsNearest.mono (hp : IsNearest p m) (hq : IsNearest q n) (hpq : p ≤ q) : m ≤ n := by
  refine Nat.le_of_not_lt fun hlt => ?_
  have hvalue := magnitudeValue_lt_iff.mpr hlt
  have hlow := (upper_nearer_iff hvalue).mp (hp.nearer n hq.le_infinity)
  have hhigh := (lower_nearer_iff hvalue).mp (hq.nearer m hp.le_infinity)
  -- both numbers are the midpoint, so both magnitudes are even and there is one between them
  have hpmid : 2 * p = magnitudeValue n + magnitudeValue m := by linarith
  have hqmid : 2 * q = magnitudeValue n + magnitudeValue m := by linarith
  have hlevel {x : ℚ} (hx : 2 * x = magnitudeValue n + magnitudeValue m) :
      |x - magnitudeValue m| = |x - magnitudeValue n| :=
    le_antisymm ((upper_nearer_iff hvalue).mpr hx.ge) ((lower_nearer_iff hvalue).mpr hx.le)
  have hm := hp.even n hq.le_infinity (by omega) (hlevel hpmid)
  have hn := hq.even m hp.le_infinity (by omega) (hlevel hqmid).symm
  have hbetween : n + 1 < m := by omega
  have hnext := hp.nearer (n + 1) (hbetween.le.trans hp.le_infinity)
  have hupper := (upper_nearer_iff (magnitudeValue_lt_iff.mpr hbetween)).mp hnext
  have hstep := magnitudeValue_lt_iff.mpr (Nat.lt_succ_self n)
  linarith

/-- A number is rounded to one magnitude. -/
theorem IsNearest.unique (hm : IsNearest q m) (hn : IsNearest q n) : m = n :=
  Nat.le_antisymm (hm.mono hn le_rfl) (hn.mono hm le_rfl)

/-- A number between neighbours, in the lower half or on a midpoint above an even one. -/
theorem isNearest_lower (hm : magnitudeValue m ≤ q)
    (hhalf : 2 * q < magnitudeValue m + magnitudeValue (m + 1) ∨
      2 * q = magnitudeValue m + magnitudeValue (m + 1) ∧ m % 2 = 0)
    (hfinite : m < infinity) : IsNearest q m := by
  apply isNearest_of_midpoints hfinite.le
  · intro n hn
    have hvalue := magnitudeValue_lt_iff.mpr hn
    exact .inl (by linarith)
  · intro n hn _
    have hvalue := magnitudeValue_le_iff.mpr (Nat.succ_le_of_lt hn)
    rcases hhalf with h | ⟨h, heven⟩
    · exact .inl (by linarith)
    · rcases hvalue.eq_or_lt with heq | hlt
      · exact .inr ⟨by rw [← heq, h], heven⟩
      · exact .inl (by linarith)

/-- A number between neighbours, in the upper half or on a midpoint below an even one. -/
theorem isNearest_upper (hm : q ≤ magnitudeValue (m + 1))
    (hhalf : magnitudeValue m + magnitudeValue (m + 1) < 2 * q ∨
      magnitudeValue m + magnitudeValue (m + 1) = 2 * q ∧ m % 2 = 1)
    (hfinite : m < infinity) : IsNearest q (m + 1) := by
  apply isNearest_of_midpoints hfinite
  · intro n hn
    have hvalue := magnitudeValue_le_iff.mpr (Nat.le_of_lt_succ hn)
    rcases hhalf with h | ⟨h, hodd⟩
    · exact .inl (by linarith)
    · rcases hvalue.eq_or_lt with heq | hlt
      · exact .inr ⟨by rw [heq, h], by omega⟩
      · exact .inl (by linarith)
  · intro n hn _
    have hvalue := magnitudeValue_lt_iff.mpr hn
    exact .inl (by linarith)

theorem isNearest_infinity (h : magnitudeValue infinity ≤ q) : IsNearest q infinity := by
  apply isNearest_of_midpoints le_rfl
  · intro n hn
    have hvalue := magnitudeValue_lt_iff.mpr hn
    exact .inl (by linarith)
  · intro n hn hle
    omega

/-- A number that is a magnitude is rounded to itself. -/
theorem isNearest_magnitudeValue (hm : m < infinity) : IsNearest (magnitudeValue m) m := by
  have hstep := magnitudeValue_lt_iff.mpr (Nat.lt_succ_self m)
  exact isNearest_lower le_rfl (.inl (by linarith)) hm

/-! ## The rounded fraction -/

variable {num den : Nat}

/-- A power of two against a fraction, in whole numbers. -/
theorem two_pow_le_div_iff (num : Nat) (hden : 0 < den) (k : Int) :
    (2 : ℚ) ^ k ≤ (num : ℚ) / den ↔ den * 2 ^ k.toNat ≤ num * 2 ^ (-k).toNat := by
  have hden' : (0 : ℚ) < den := Nat.cast_pos.mpr hden
  have hpow : (0 : ℚ) < 2 ^ (-k).toNat := pow_pos two_pos _
  rw [← pow_toNat_div_pow_toNat, div_le_div_iff₀ hpow hden', ← Nat.cast_le (α := ℚ), mul_comm]
  push_cast
  rfl

theorem floorLog2_bounds (hnum : 0 < num) (hden : 0 < den) :
    (2 : ℚ) ^ floorLog2 num den ≤ (num : ℚ) / den ∧
      (num : ℚ) / den < 2 ^ (floorLog2 num den + 1) := by
  have hden' : (0 : ℚ) < den := Nat.cast_pos.mpr hden
  have hnumlow : (2 : ℚ) ^ (num.log2 : Int) ≤ num := by
    rw [zpow_natCast]
    exact_mod_cast Nat.log2_self_le hnum.ne'
  have hnumhigh : (num : ℚ) < 2 ^ ((num.log2 : Int) + 1) := by
    exact_mod_cast Nat.lt_log2_self (n := num)
  have hdenlow : (2 : ℚ) ^ (den.log2 : Int) ≤ den := by
    rw [zpow_natCast]
    exact_mod_cast Nat.log2_self_le hden.ne'
  have hdenhigh : (den : ℚ) < 2 ^ ((den.log2 : Int) + 1) := by
    exact_mod_cast Nat.lt_log2_self (n := den)
  -- the difference of the lengths is right or one too large
  have hlow : (2 : ℚ) ^ ((num.log2 : Int) - den.log2 - 1) ≤ (num : ℚ) / den := by
    rw [le_div_iff₀ hden']
    calc (2 : ℚ) ^ ((num.log2 : Int) - den.log2 - 1) * den
        ≤ 2 ^ ((num.log2 : Int) - den.log2 - 1) * 2 ^ ((den.log2 : Int) + 1) :=
          mul_le_mul_of_nonneg_left hdenhigh.le (zpow_pos two_pos _).le
      _ = 2 ^ (num.log2 : Int) := by
          rw [← zpow_add₀ two_ne_zero]
          congr 1
          omega
      _ ≤ num := hnumlow
  have hhigh : (num : ℚ) / den < 2 ^ ((num.log2 : Int) - den.log2 + 1) := by
    rw [div_lt_iff₀ hden']
    calc (num : ℚ) < 2 ^ ((num.log2 : Int) + 1) := hnumhigh
      _ = 2 ^ ((num.log2 : Int) - den.log2 + 1) * 2 ^ (den.log2 : Int) := by
          rw [← zpow_add₀ two_ne_zero]
          congr 1
          omega
      _ ≤ 2 ^ ((num.log2 : Int) - den.log2 + 1) * den :=
          mul_le_mul_of_nonneg_left hdenlow (zpow_pos two_pos _).le
  have htest := two_pow_le_div_iff num hden ((num.log2 : Int) - den.log2)
  unfold floorLog2
  dsimp only
  split
  · next h => exact ⟨htest.mpr h, hhigh⟩
  · next h =>
    rw [sub_add_cancel]
    exact ⟨hlow, not_le.mp fun hle => h (htest.mp hle)⟩

theorem floor_bounds (num den : Nat) :
    ((num / den : Nat) : ℚ) ≤ (num : ℚ) / den ∧ (num : ℚ) / den < (num / den : Nat) + 1 := by
  rw [← Nat.floor_div_eq_div (K := ℚ)]
  exact ⟨Nat.floor_le (by positivity), Nat.lt_floor_add_one _⟩

/-- A fraction in halves above its whole part. -/
theorem two_mul_div_eq (hden : 0 < den) :
    2 * ((num : ℚ) / den) = 2 * (num / den : Nat) + 2 * (num % den : Nat) / den := by
  have hden' : (den : ℚ) ≠ 0 := Nat.cast_ne_zero.mpr hden.ne'
  have hsplit : (num : ℚ) = den * (num / den : Nat) + (num % den : Nat) := by
    exact_mod_cast (Nat.div_add_mod num den).symm
  field_simp
  linarith

theorem roundHalfEven_cases (num : Nat) (hden : 0 < den) :
    roundHalfEven num den = num / den ∧ (2 * ((num : ℚ) / den) < 2 * (num / den : Nat) + 1 ∨
        2 * ((num : ℚ) / den) = 2 * (num / den : Nat) + 1 ∧ num / den % 2 = 0) ∨
      roundHalfEven num den = num / den + 1 ∧ (2 * (num / den : Nat) + 1 < 2 * ((num : ℚ) / den) ∨
        2 * (num / den : Nat) + 1 = 2 * ((num : ℚ) / den) ∧ num / den % 2 = 1) := by
  have hden' : (0 : ℚ) < den := Nat.cast_pos.mpr hden
  rw [two_mul_div_eq hden]
  unfold roundHalfEven
  dsimp only
  split
  · next h =>
    have hlt : (2 * (num % den : Nat) : ℚ) / den < 1 := by
      rw [div_lt_one hden']
      exact_mod_cast h
    exact .inl ⟨rfl, .inl (by linarith)⟩
  · split
    · next h =>
      have hgt : (1 : ℚ) < 2 * (num % den : Nat) / den := by
        rw [one_lt_div hden']
        exact_mod_cast h
      exact .inr ⟨rfl, .inl (by linarith)⟩
    · have htie : (2 * (num % den : Nat) : ℚ) / den = 1 := by
        rw [div_eq_one_iff_eq hden'.ne']
        exact_mod_cast (by omega : 2 * (num % den) = den)
      rw [htie]
      rcases Nat.mod_two_eq_zero_or_one (num / den) with heven | hodd
      · exact .inl ⟨by omega, .inr ⟨rfl, heven⟩⟩
      · exact .inr ⟨by omega, .inr ⟨rfl, hodd⟩⟩

/-- A fraction counted in the weight of the last bit, which leaves a significand of 53 bits or,
with the least weight, fewer. -/
theorem roundHalfEven_isNearest {e : Int} (hden : 0 < den) (he : -1074 ≤ e)
    (hnormal : e = -1074 ∨ 2 ^ 52 ≤ num / den) (hlt : num / den < 2 ^ 53) :
    IsNearest ((num : ℚ) / den * 2 ^ e)
      (min infinity ((e + 1074).toNat * 2 ^ 52 + roundHalfEven num den)) := by
  have hweight : (0 : ℚ) < 2 ^ e := zpow_pos two_pos _
  obtain ⟨hfloor, -⟩ := floor_bounds num den
  have hlow := magnitudeValue_add he hnormal hlt.le
  have hhigh : magnitudeValue ((e + 1074).toNat * 2 ^ 52 + num / den + 1) =
      ((num / den : Nat) + 1) * 2 ^ e := by
    rw [Nat.add_assoc, magnitudeValue_add he (hnormal.imp id Nat.le_succ_of_le) hlt, Nat.cast_succ]
  have hle : magnitudeValue ((e + 1074).toNat * 2 ^ 52 + num / den) ≤ (num : ℚ) / den * 2 ^ e := by
    rw [hlow]
    exact mul_le_mul_of_nonneg_right hfloor hweight.le
  rcases Nat.lt_or_ge ((e + 1074).toNat * 2 ^ 52 + num / den) infinity with hfinite | hinfinite
  · rcases roundHalfEven_cases num hden with ⟨hround, hhalf⟩ | ⟨hround, hhalf⟩
    · rw [hround, Nat.min_eq_right hfinite.le]
      refine isNearest_lower hle ?_ hfinite
      rw [hlow, hhigh]
      rcases hhalf with hhalf | ⟨hhalf, heven⟩
      · exact .inl (by nlinarith)
      · exact .inr ⟨by nlinarith, by omega⟩
    · rw [hround, ← Nat.add_assoc, Nat.min_eq_right hfinite]
      refine isNearest_upper ?_ ?_ hfinite
      · rw [hhigh]
        exact mul_le_mul_of_nonneg_right (floor_bounds num den).2.le hweight.le
      · rw [hlow, hhigh]
        rcases hhalf with hhalf | ⟨hhalf, hodd⟩
        · exact .inl (by nlinarith)
        · exact .inr ⟨by nlinarith, by omega⟩
  · have hround : num / den ≤ roundHalfEven num den := by
      rcases roundHalfEven_cases num hden with ⟨hround, -⟩ | ⟨hround, -⟩
      · omega
      · omega
    rw [Nat.min_eq_left (by omega)]
    exact isNearest_infinity ((magnitudeValue_le_iff.mpr hinfinite).trans hle)

/-- A fraction is rounded to the nearest magnitude. -/
theorem roundMagnitude_isNearest (num : Nat) (hden : 0 < den) :
    IsNearest ((num : ℚ) / den) (roundMagnitude num den) := by
  by_cases hzero : num = 0
  · have hround : roundMagnitude num den = 0 := if_pos hzero
    rw [hround, hzero, Nat.cast_zero, zero_div, ← magnitudeValue_zero]
    exact isNearest_magnitudeValue (by decide)
  · obtain ⟨hlow, hhigh⟩ := floorLog2_bounds (Nat.pos_of_ne_zero hzero) hden
    obtain ⟨e, he⟩ : ∃ e : Int, e = max (-1074) (floorLog2 num den - 52) := ⟨_, rfl⟩
    have hround : roundMagnitude num den = min infinity ((e + 1074).toNat * 2 ^ 52 +
        roundHalfEven (num * 2 ^ (-e).toNat) (den * 2 ^ e.toNat)) := by
      rw [he]
      exact if_neg hzero
    have hweight : (0 : ℚ) < 2 ^ e := zpow_pos two_pos _
    have hscaled : ((num * 2 ^ (-e).toNat : Nat) : ℚ) / (den * 2 ^ e.toNat : Nat) =
        (num : ℚ) / den / 2 ^ e := by
      rw [← pow_toNat_div_pow_toNat]
      push_cast
      field_simp
    have hq : ((num * 2 ^ (-e).toNat : Nat) : ℚ) / (den * 2 ^ e.toNat : Nat) * 2 ^ e =
        (num : ℚ) / den := by
      rw [hscaled, div_mul_cancel₀ _ hweight.ne']
    obtain ⟨hfloor, hceil⟩ := floor_bounds (num * 2 ^ (-e).toNat) (den * 2 ^ e.toNat)
    rw [hscaled] at hfloor hceil
    rw [hround, ← hq]
    apply roundHalfEven_isNearest (Nat.mul_pos hden (Nat.two_pow_pos _)) (by omega)
    · refine (Int.lt_or_eq_of_le (by omega : -1074 ≤ e)).symm.imp Eq.symm fun hlt => ?_
      have hbits : (2 : ℚ) ^ 52 ≤ (num : ℚ) / den / 2 ^ e := by
        rw [le_div_iff₀ hweight, ← zpow_natCast, ← zpow_add₀ two_ne_zero]
        have hexponent : ((52 : Nat) : Int) + e = floorLog2 num den := by omega
        rw [hexponent]
        exact hlow
      have hsucc : (2 : ℚ) ^ 52 < ((num * 2 ^ (-e).toNat / (den * 2 ^ e.toNat) : Nat) : ℚ) + 1 :=
        hbits.trans_lt hceil
      exact Nat.le_of_lt_succ (by exact_mod_cast hsucc)
    · have hbits : (num : ℚ) / den / 2 ^ e < 2 ^ 53 := by
        rw [div_lt_iff₀ hweight, ← zpow_natCast, ← zpow_add₀ two_ne_zero]
        exact hhigh.trans_le (zpow_le_zpow_right₀ one_le_two (by omega))
      exact_mod_cast hfloor.trans_lt hbits

end PluginRelease.Binary64
