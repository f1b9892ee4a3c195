import PluginRelease.Decimal.Reading
import PluginRelease.Proofs.Decimal.Nearest
import PluginRelease.Proofs.Text.Blank
import PluginRelease.Proofs.Text.Decimal

/-!
Numerals and their numbers. A decimal is rounded to the nearest number, however large or small it
is, and the parts of a numeral are read as what they stand for.
-/
namespace PluginRelease

namespace Binary64

/-- The number with a sign that is nearest to a size; what is rounded to zero keeps its sign. -/
def IsDouble (negative : Bool) (size : ℚ) (x : Binary64) : Prop :=
  x.negative = negative ∧ IsNearest size x.magnitude

theorem IsDouble.unique {negative : Bool} {size : ℚ} {x y : Binary64}
    (hx : IsDouble negative size x) (hy : IsDouble negative size y) : x = y := by
  obtain ⟨s, m⟩ := x
  obtain ⟨t, n⟩ := y
  have hsign : s = t := hx.1.trans hy.1.symm
  have hmagnitude : m = n := hx.2.unique hy.2
  rw [hsign, hmagnitude]

/-- A number divided and rounded once. Infinity stays what it is. -/
def IsQuotient (x : Binary64) (n : Nat) (z : Binary64) : Prop :=
  (x.magnitude < infinity → IsDouble x.negative (magnitudeValue x.magnitude / n) z) ∧
    (infinity ≤ x.magnitude → z = x)

theorem divNat_isQuotient (x : Binary64) {n : Nat} (hn : 0 < n) : IsQuotient x n (x.divNat n) := by
  constructor
  · intro hfinite
    have hdiv : x.divNat n = ⟨x.negative,
        roundMagnitude (fraction x.magnitude).1 ((fraction x.magnitude).2 * n)⟩ :=
      if_pos (decide_eq_true hfinite)
    have hden : 0 < (fraction x.magnitude).2 := Nat.two_pow_pos _
    rw [hdiv]
    refine ⟨rfl, ?_⟩
    rw [magnitudeValue, div_div, ← Nat.cast_mul]
    exact roundMagnitude_isNearest _ (Nat.mul_pos hden hn)
  · intro hinfinite
    exact if_neg fun h => absurd (of_decide_eq_true h) (Nat.not_lt.mpr hinfinite)

theorem magnitudeValue_infinity : magnitudeValue infinity = 2 ^ 1024 := by
  have hsplit : infinity = ((972 : Int) + 1074).toNat * 2 ^ 52 + 2 ^ 52 := rfl
  rw [hsplit, magnitudeValue_add (by decide) (.inr le_rfl) (by decide), Nat.cast_pow,
    Nat.cast_ofNat, ← zpow_natCast, ← zpow_add₀ two_ne_zero]
  rfl

theorem magnitudeValue_greatest : magnitudeValue (infinity - 1) = 2 ^ 1024 - 2 ^ 971 := by
  have hsplit : infinity - 1 = ((971 : Int) + 1074).toNat * 2 ^ 52 + (2 ^ 53 - 1) := rfl
  have hcast : ((2 ^ 53 - 1 : Nat) : ℚ) = 2 ^ 53 - 1 := by norm_num
  rw [hsplit, magnitudeValue_add (by decide) (.inr (by decide)) (by decide), hcast, sub_mul,
    one_mul, ← zpow_natCast, ← zpow_add₀ two_ne_zero]
  rfl

/-- Halfway between the greatest finite number and the power of two above it. -/
def overflow : ℚ := 2 ^ 1024 - 2 ^ 970

/-- Rounding to infinity starts at the last midpoint. -/
theorem IsNearest.lt_infinity_iff {q : ℚ} {m : Nat} (h : IsNearest q m) :
    m < infinity ↔ q < overflow := by
  have hsucc : infinity - 1 + 1 = infinity := by decide
  have hlast : infinity - 1 < infinity := by decide
  have hmiddle : magnitudeValue (infinity - 1) + magnitudeValue infinity = 2 * overflow := by
    have hdouble : (2 : ℚ) ^ 971 = 2 * 2 ^ 970 := pow_succ' 2 970
    have hsum (a b : ℚ) : a - 2 * b + a = 2 * (a - b) := by ring
    rw [magnitudeValue_greatest, magnitudeValue_infinity, hdouble, hsum, overflow]
  constructor
  · intro hm
    by_contra hlarge
    have hinfinite : IsNearest q infinity := by
      rcases le_total (magnitudeValue infinity) q with habove | hbelow
      · exact isNearest_infinity habove
      · have hupper := isNearest_upper (q := q) (m := infinity - 1)
        rw [hsucc, hmiddle] at hupper
        refine hupper hbelow ?_ hlast
        rcases (not_lt.mp hlarge).eq_or_lt with heq | hlt
        · exact .inr ⟨by rw [heq], by decide⟩
        · exact .inl (by linarith)
    exact absurd (h.unique hinfinite) hm.ne
  · intro hq
    by_contra hm
    obtain rfl : m = infinity := Nat.le_antisymm h.le_infinity (Nat.not_lt.mp hm)
    have hnearer := h.nearer (infinity - 1) hlast.le
    rw [upper_nearer_iff (magnitudeValue_lt_iff.mpr hlast), hmiddle] at hnearer
    linarith

theorem magnitudeValue_one : magnitudeValue 1 = 2 ^ (-1074 : Int) := by
  have hunits : units 1 = 1 := rfl
  rw [magnitudeValue_eq, hunits, Nat.cast_one, one_mul]

/-- Integers of 53 bits are numbers themselves. -/
theorem exists_magnitudeValue_eq {n : Nat} (hn : n < 2 ^ 53) :
    ∃ m, m < infinity ∧ magnitudeValue m = n := by
  have hlarge : (n : ℚ) < 2 ^ 1024 := by
    calc (n : ℚ) < 2 ^ 53 := by exact_mod_cast hn
      _ ≤ 2 ^ 1024 := pow_le_pow_right₀ one_le_two (by decide)
  suffices hexists : ∃ m, magnitudeValue m = n by
    obtain ⟨m, hm⟩ := hexists
    refine ⟨m, magnitudeValue_lt_iff.mp ?_, hm⟩
    rwa [hm, magnitudeValue_infinity]
  rcases Nat.eq_zero_or_pos n with rfl | hpos
  · exact ⟨0, by rw [magnitudeValue_zero, Nat.cast_zero]⟩
  · -- the significand is the integer shifted up to its 53 bits
    have hne : n ≠ 0 := hpos.ne'
    obtain ⟨k, hk⟩ : ∃ k, k + n.log2 = 52 :=
      ⟨52 - n.log2, Nat.sub_add_cancel (Nat.le_of_lt_succ ((Nat.log2_lt hne).mpr hn))⟩
    have hlow : 2 ^ 52 ≤ n * 2 ^ k := by
      calc 2 ^ 52 = 2 ^ n.log2 * 2 ^ k := by rw [← pow_add, Nat.add_comm, hk]
        _ ≤ n * 2 ^ k := Nat.mul_le_mul_right _ (Nat.log2_self_le hne)
    have hhigh : n * 2 ^ k ≤ 2 ^ 53 := by
      calc n * 2 ^ k ≤ 2 ^ (n.log2 + 1) * 2 ^ k := Nat.mul_le_mul_right _ Nat.lt_log2_self.le
        _ = 2 ^ 53 := by rw [← pow_add, Nat.add_right_comm, Nat.add_comm n.log2, hk]
    have hvalue := magnitudeValue_add (e := -k) (by omega) (.inr hlow) hhigh
    refine ⟨_, hvalue.trans ?_⟩
    rw [Nat.cast_mul, Nat.cast_pow, Nat.cast_ofNat, mul_assoc, ← zpow_natCast,
      ← zpow_add₀ two_ne_zero, add_neg_cancel, zpow_zero, mul_one]

theorem IsDouble.magnitudeValue_eq {negative : Bool} {n : Nat} {x : Binary64}
    (hx : IsDouble negative n x) (hn : n < 2 ^ 53) :
    x.magnitude < infinity ∧ magnitudeValue x.magnitude = n := by
  obtain ⟨m, hm, hvalue⟩ := exists_magnitudeValue_eq hn
  have hnearest := isNearest_magnitudeValue hm
  rw [hvalue] at hnearest
  rw [hx.2.unique hnearest]
  exact ⟨hm, hvalue⟩

end Binary64

namespace Decimal
open Binary64 Text

/-- The number without its sign. -/
def size (d : Decimal) : ℚ := d.coefficient * 10 ^ d.exponent

theorem ten_pow_le_coefficient {n : Nat} (hn : 0 < n) :
    10 ^ ((Nat.toDigits 10 n).length - 1) ≤ n := by
  refine Nat.le_of_not_lt fun hlt => ?_
  rcases Nat.eq_zero_or_pos ((Nat.toDigits 10 n).length - 1) with hone | hpos
  · rw [hone] at hlt
    omega
  · have hlen := (Nat.length_toDigits_le_iff (by decide) hpos).mpr hlt
    omega

/-- The number of digits tells where a decimal lies. -/
theorem size_bounds {d : Decimal} (hd : d.coefficient ≠ 0) :
    (10 : ℚ) ^ ((Nat.toDigits 10 d.coefficient).length + d.exponent - 1) ≤ d.size ∧
      d.size < 10 ^ ((Nat.toDigits 10 d.coefficient).length + d.exponent) := by
  have hpow : (0 : ℚ) < 10 ^ d.exponent := zpow_pos (by norm_num) _
  have hlen : 0 < (Nat.toDigits 10 d.coefficient).length := Nat.length_toDigits_pos
  have hlow := ten_pow_le_coefficient (Nat.pos_of_ne_zero hd)
  have hhigh := (Nat.length_toDigits_le_iff (b := 10) (by decide) hlen).mp le_rfl
  constructor
  · have hexponent : ((Nat.toDigits 10 d.coefficient).length + d.exponent - 1 : Int) =
        ((Nat.toDigits 10 d.coefficient).length - 1 : Nat) + d.exponent := by omega
    rw [hexponent, zpow_add₀ (by norm_num), zpow_natCast]
    exact mul_le_mul_of_nonneg_right (by exact_mod_cast hlow) hpow.le
  · rw [zpow_add₀ (by norm_num), zpow_natCast]
    exact mul_lt_mul_of_pos_right (by exact_mod_cast hhigh) hpow

/-- Numbers from 310 zeros on are beyond the finite ones. -/
theorem infinity_le_of_ten_pow_le {q : ℚ} (h : 10 ^ (310 : Int) ≤ q) :
    magnitudeValue infinity ≤ q := by
  have hlimit : 2 ^ 1024 ≤ 10 ^ 310 := by decide +kernel
  rw [magnitudeValue_infinity]
  calc (2 : ℚ) ^ 1024 ≤ 10 ^ (310 : Int) := by exact_mod_cast hlimit
    _ ≤ q := h

/-- Numbers with 330 zeros behind the point are less than half of the least one. -/
theorem two_mul_lt_of_lt_ten_pow {q : ℚ} (h : q < 10 ^ (-331 : Int)) :
    2 * q < magnitudeValue 0 + magnitudeValue 1 := by
  have hlimit : 2 * 2 ^ 1074 < 10 ^ 331 := by decide +kernel
  have hhalf : 2 * (10 : ℚ) ^ (-331 : Int) < 2 ^ (-1074 : Int) := by
    rw [zpow_neg, zpow_neg, ← div_eq_mul_inv, div_lt_iff₀ (by positivity), inv_mul_eq_div,
      lt_div_iff₀ (by positivity)]
    exact_mod_cast hlimit
  rw [magnitudeValue_zero, zero_add, magnitudeValue_one]
  linarith

/-- Every decimal is rounded to the nearest number. -/
theorem toBinary64_isDouble (d : Decimal) : IsDouble d.negative d.size d.toBinary64 := by
  unfold toBinary64
  dsimp only
  split
  · next hzero =>
    refine ⟨rfl, ?_⟩
    have hsize : d.size = magnitudeValue 0 := by
      rw [size, hzero, Nat.cast_zero, zero_mul, magnitudeValue_zero]
    rw [hsize]
    exact isNearest_magnitudeValue (by decide)
  · next hd =>
    obtain ⟨hlow, hhigh⟩ := size_bounds hd
    split
    · next hlarge =>
      refine ⟨rfl, isNearest_infinity (infinity_le_of_ten_pow_le ?_)⟩
      exact (zpow_le_zpow_right₀ (by norm_num) (by omega)).trans hlow
    · split
      · next hsmall =>
        have hfinite : 0 < infinity := by decide
        refine ⟨rfl, isNearest_lower ?_ (.inl (two_mul_lt_of_lt_ten_pow ?_)) hfinite⟩
        · rw [magnitudeValue_zero]
          exact mul_nonneg (Nat.cast_nonneg _) (zpow_pos (by norm_num) _).le
        · exact hhigh.trans_le (zpow_le_zpow_right₀ (by norm_num) (by omega))
      · refine ⟨rfl, ?_⟩
        have hsize : d.size = ((d.coefficient * 10 ^ d.exponent.toNat : Nat) : ℚ) /
            (10 ^ (-d.exponent).toNat : Nat) := by
          rw [size, ← pow_toNat_div_pow_toNat]
          push_cast
          ring
        rw [hsize]
        exact roundMagnitude_isNearest _ (Nat.pow_pos (by decide))

/-! ## Reading -/

/-- The digits behind the point count in fractions of one. -/
theorem size_ofParts (negative : Bool) (whole part : List Char) (e : Int) :
    (ofParts negative whole part e).size =
      (decimalValue whole + decimalValue part / 10 ^ part.length) * 10 ^ e := by
  have hpow : (10 : ℚ) ^ part.length ≠ 0 := pow_ne_zero _ (by norm_num)
  have hsplit : (10 : ℚ) ^ (e - part.length) = 10 ^ e / 10 ^ part.length := by
    rw [zpow_sub₀ (by norm_num), zpow_natCast]
  have hsize : (ofParts negative whole part e).size =
      (decimalValue (whole ++ part) : ℚ) * 10 ^ (e - part.length) := rfl
  rw [hsize, hsplit, decimalValue_append]
  push_cast
  field_simp

theorem exponentValue?_eq {s ds : List Char} {negative : Bool} (hsign : takeSign s = (negative, ds))
    (hds : ∀ c ∈ ds, c.isDigit = true) (hne : ds ≠ []) :
    exponentValue? s =
      some (if negative then -(decimalValue ds : Int) else decimalValue ds) := by
  unfold exponentValue?
  rw [hsign]
  dsimp only
  rw [if_neg]
  simp [hne, List.all_eq_true.mpr hds]

/-- A text made of the parts of a numeral is read as its number. -/
theorem parse?_eq {s whole fraction part tail : List Char} {negative : Bool} {e : Int}
    (hsign : takeSign s = (negative, whole ++ (fraction ++ tail)))
    (hwhole : ∀ c ∈ whole, c.isDigit = true) (hpart : ∀ c ∈ part, c.isDigit = true)
    (hne : whole ≠ [] ∨ part ≠ [])
    (hfraction : fraction = [] ∧ part = [] ∨ fraction = '.' :: part)
    (htail : tail = [] ∧ e = 0 ∨
      ∃ c r, tail = c :: r ∧ (c = 'e' ∨ c = 'E') ∧ exponentValue? r = some e) :
    parse? s = some (ofParts negative whole part e) := by
  have htailhead : ∀ c ∈ tail.head?, c.isDigit = false ∧ c ≠ '.' := by
    rcases htail with ⟨rfl, -⟩ | ⟨c, r, rfl, hc, -⟩
    · simp
    · rcases hc with rfl | rfl <;> simp
  have hhead : ∀ c ∈ (fraction ++ tail).head?, c.isDigit = false := by
    rcases hfraction with ⟨rfl, -⟩ | rfl
    · exact fun c hc => (htailhead c hc).1
    · intro c hc
      obtain rfl := Option.some.inj hc
      rfl
  have htake := takeWhile_run hwhole hhead
  have hdrop := dropWhile_run hwhole hhead
  have hsome : (whole.isEmpty && part.isEmpty) = false := by
    rcases hne with hne | hne <;> simp [hne]
  unfold parse?
  rw [hsign]
  dsimp only
  rw [htake, hdrop]
  rcases hfraction with ⟨rfl, rfl⟩ | rfl
  · rcases htail with ⟨rfl, rfl⟩ | ⟨c, r, rfl, hc, hexponent⟩
    · simp only [List.append_nil, hsome, Bool.false_eq_true, if_false]
    · rw [List.nil_append]
      split
      · next hpoint => exact absurd (List.cons.inj hpoint).1 (htailhead c rfl).2
      · simp only [hsome, hc, hexponent, Bool.false_eq_true, if_true, if_false, Option.map_some]
  · have htake := takeWhile_run hpart fun c hc => (htailhead c hc).1
    have hdrop := dropWhile_run hpart fun c hc => (htailhead c hc).1
    simp only [List.cons_append, htake, hdrop, hsome, Bool.false_eq_true, if_false]
    rcases htail with ⟨rfl, rfl⟩ | ⟨c, r, rfl, hc, hexponent⟩
    · rfl
    · simp only [hc, if_true, hexponent, Option.map_some]

end Decimal
end PluginRelease
