import PluginRelease.Proofs.Decimal.Magnitude
import PluginRelease.Proofs.Tag.Order
import Mathlib.Data.Prod.Lex
import Mathlib.Data.String.Basic

/-!
The key of a tag: its exact value, which may be infinite, and its name where the value is
zero. No tag is worth a NaN, so all tags have the order of their keys.
-/
namespace PluginRelease

namespace Binary64

/-- The magnitudes above infinity stand for no number. -/
def IsNaN (x : Binary64) : Prop := infinity < x.magnitude

/-- The exact value of a finite number. -/
def finiteValue (x : Binary64) : ℚ :=
  if x.negative then -magnitudeValue x.magnitude else magnitudeValue x.magnitude

theorem finiteValue_lt_iff {x y : Binary64} : x.finiteValue < y.finiteValue ↔ x.rank < y.rank := by
  have hvalue (z : Binary64) : z.finiteValue =
      ((if z.negative then -(units z.magnitude : Int) else units z.magnitude : Int) : ℚ) *
        2 ^ (-1074 : Int) := by
    unfold finiteValue
    rw [magnitudeValue_eq]
    split
    · rw [Int.cast_neg, Int.cast_natCast, neg_mul]
    · rw [Int.cast_natCast]
  have hstep : (0 : ℚ) < 2 ^ (-1074 : Int) := zpow_pos two_pos _
  rw [hvalue x, hvalue y, mul_lt_mul_iff_left₀ hstep, Int.cast_lt]
  have hxy := @units_lt_units_iff x.magnitude y.magnitude
  have hyx := @units_lt_units_iff y.magnitude x.magnitude
  have hx := @units_lt_units_iff 0 x.magnitude
  have hy := @units_lt_units_iff 0 y.magnitude
  rw [units_zero] at hx hy
  unfold rank
  cases x.negative <;> cases y.negative <;> simp only [if_true, if_false, Bool.false_eq_true] <;>
    omega

/-- The exact value of a number, which may be infinite. -/
def exact (x : Binary64) : WithBot (WithTop ℚ) :=
  if x.isFinite then ((x.finiteValue : WithTop ℚ) : WithBot (WithTop ℚ))
  else if x.negative then ⊥ else ((⊤ : WithTop ℚ) : WithBot (WithTop ℚ))

/-- A number is finite or one of the two infinities, and the infinities are the ends. -/
theorem exact_cases {x : Binary64} (hnan : ¬ x.IsNaN) :
    (x.exact = ⊥ ∧ x.rank = -infinity) ∨
      (x.exact = ((x.finiteValue : WithTop ℚ) : WithBot (WithTop ℚ)) ∧
        -(infinity : Int) < x.rank ∧ x.rank < infinity) ∨
      (x.exact = ((⊤ : WithTop ℚ) : WithBot (WithTop ℚ)) ∧ x.rank = infinity) := by
  unfold exact rank
  by_cases hfinite : x.isFinite = true
  · have hlt : x.magnitude < infinity := of_decide_eq_true hfinite
    refine .inr (.inl ⟨if_pos hfinite, ?_⟩)
    split
    · omega
    · omega
  · have hmagnitude : x.magnitude = infinity := by
      apply Nat.le_antisymm
      · exact Nat.not_lt.mp hnan
      · exact Nat.not_lt.mp fun hlt => hfinite (decide_eq_true hlt)
    rw [if_neg hfinite, hmagnitude]
    cases x.negative with
    | true => exact .inl ⟨rfl, rfl⟩
    | false => exact .inr (.inr ⟨rfl, rfl⟩)

theorem exact_lt_exact_iff {x y : Binary64} (hx : ¬ x.IsNaN) (hy : ¬ y.IsNaN) :
    x.exact < y.exact ↔ x.rank < y.rank := by
  have hpos : 0 < infinity := by decide
  rcases exact_cases hx with ⟨hxv, hxr⟩ | ⟨hxv, hxlow, hxhigh⟩ | ⟨hxv, hxr⟩
  · rw [hxv, bot_lt_iff_ne_bot, hxr]
    rcases exact_cases hy with ⟨hyv, hyr⟩ | ⟨hyv, hylow, hyhigh⟩ | ⟨hyv, hyr⟩
    · simp only [hyv, hyr, ne_eq, not_true_eq_false, lt_self_iff_false]
    · simp only [hyv, ne_eq, WithBot.coe_ne_bot, not_false_eq_true, true_iff]
      exact hylow
    · simp only [hyv, ne_eq, WithBot.coe_ne_bot, not_false_eq_true, true_iff]
      omega
  · rw [hxv]
    rcases exact_cases hy with ⟨hyv, hyr⟩ | ⟨hyv, hylow, hyhigh⟩ | ⟨hyv, hyr⟩
    · simp only [hyv, not_lt_bot, false_iff]
      omega
    · rw [hyv, WithBot.coe_lt_coe, WithTop.coe_lt_coe]
      exact finiteValue_lt_iff
    · simp only [hyv, WithBot.coe_lt_coe, WithTop.coe_lt_top, true_iff]
      omega
  · rw [hxv, hxr]
    have htop : ¬ ((⊤ : WithTop ℚ) : WithBot (WithTop ℚ)) < y.exact := not_top_lt
    rcases exact_cases hy with ⟨hyv, hyr⟩ | ⟨hyv, hylow, hyhigh⟩ | ⟨hyv, hyr⟩
    · simp only [htop, false_iff]
      omega
    · simp only [htop, false_iff]
      omega
    · simp only [htop, false_iff]
      omega

theorem exact_eq_exact_iff {x y : Binary64} (hx : ¬ x.IsNaN) (hy : ¬ y.IsNaN) :
    x.exact = y.exact ↔ x.rank = y.rank := by
  rw [le_antisymm_iff, ← not_lt, ← not_lt, exact_lt_exact_iff hx hy, exact_lt_exact_iff hy hx]
  omega

theorem zero_not_isNaN : ¬ zero.IsNaN := Nat.not_lt_zero _

theorem exact_zero : zero.exact = 0 := by
  have hvalue : zero.finiteValue = 0 := magnitudeValue_zero
  have hexact : zero.exact = ((zero.finiteValue : WithTop ℚ) : WithBot (WithTop ℚ)) := rfl
  rw [hexact, hvalue]
  rfl

theorem exact_eq_zero_iff {x : Binary64} (hx : ¬ x.IsNaN) : x.exact = 0 ↔ x.IsZero := by
  rw [← exact_zero, exact_eq_exact_iff hx zero_not_isNaN, ← rank_eq_zero_iff]
  rfl

theorem roundMagnitude_le_infinity (num den : Nat) : roundMagnitude num den ≤ infinity := by
  unfold roundMagnitude
  split
  · exact Nat.zero_le _
  · exact Nat.min_le_left _ _

theorem divNat_not_isNaN {x : Binary64} (hx : ¬ x.IsNaN) (n : Nat) : ¬ (x.divNat n).IsNaN := by
  unfold divNat
  split
  · exact Nat.not_lt.mpr (roundMagnitude_le_infinity _ _)
  · exact hx

end Binary64

theorem Decimal.toBinary64_not_isNaN (d : Decimal) : ¬ d.toBinary64.IsNaN := by
  unfold toBinary64 Binary64.IsNaN
  dsimp only
  split
  · exact Nat.not_lt_zero _
  · split
    · exact Nat.lt_irrefl _
    · split
      · exact Nat.not_lt_zero _
      · exact Nat.not_lt.mpr (Binary64.roundMagnitude_le_infinity _ _)

namespace Tag

theorem numeralValue_not_isNaN (s : List Char) : ¬ (numeralValue s).IsNaN := by
  unfold numeralValue
  cases Decimal.parse? s with
  | none => exact Nat.not_lt_zero _
  | some d => exact d.toBinary64_not_isNaN

/-- Every tag has a value that is a number. -/
theorem value_not_isNaN (tag : String) : ¬ (value tag).IsNaN := by
  unfold value
  split
  · exact Binary64.divNat_not_isNaN (numeralValue_not_isNaN _) 100
  · cases numeral? tag.toList with
    | none => exact Nat.not_lt_zero _
    | some s => exact numeralValue_not_isNaN s

/-- The exact value of a tag. -/
def exactValue (tag : String) : WithBot (WithTop ℚ) := (value tag).exact

theorem exactValue_lt_exactValue_iff {a b : String} :
    exactValue a < exactValue b ↔ rank a < rank b :=
  Binary64.exact_lt_exact_iff (value_not_isNaN a) (value_not_isNaN b)

theorem exactValue_eq_exactValue_iff {a b : String} :
    exactValue a = exactValue b ↔ rank a = rank b :=
  Binary64.exact_eq_exact_iff (value_not_isNaN a) (value_not_isNaN b)

theorem exactValue_eq_zero_iff {tag : String} : exactValue tag = 0 ↔ rank tag = 0 := by
  rw [exactValue, Binary64.exact_eq_zero_iff (value_not_isNaN tag), ← Binary64.rank_eq_zero_iff]
  rfl

/-- What tags are ordered by: the value and, where the value is zero, the name. -/
def key (tag : String) : WithBot (WithTop ℚ) ×ₗ WithBot String :=
  toLex (exactValue tag, if exactValue tag = 0 then (tag : WithBot String) else ⊥)

theorem key_lt_key_iff {a b : String} :
    key a < key b ↔ rank a < rank b ∨ rank a = rank b ∧ rank a = 0 ∧ a < b := by
  unfold key
  rw [Prod.Lex.toLex_lt_toLex, exactValue_lt_exactValue_iff, exactValue_eq_exactValue_iff]
  apply or_congr_right
  apply and_congr_right
  intro hlevel
  simp only [exactValue_eq_zero_iff, ← hlevel]
  by_cases hzero : rank a = 0
  · rw [if_pos hzero, if_pos hzero, WithBot.coe_lt_coe]
    exact (and_iff_right hzero).symm
  · rw [if_neg hzero, if_neg hzero]
    simp only [lt_self_iff_false, hzero, false_and]

/-- Tags have the order of their keys. -/
theorem compare_eq_cmp_key (a b : String) : compare a b = cmp (key a) (key b) := by
  rw [compare_eq_then]
  rcases Int.lt_trichotomy (rank a) (rank b) with hlt | hlevel | hgt
  · rw [Int.compare_eq_lt.mpr hlt, (cmp_eq_lt_iff _ _).mpr (key_lt_key_iff.mpr (.inl hlt))]
    rfl
  · rw [Int.compare_eq_eq.mpr hlevel, Ordering.eq_then]
    by_cases hzero : rank a = 0
    · rw [if_pos hzero, ← cmp_eq_compare]
      rcases lt_trichotomy a b with hlt | rfl | hgt
      · have hkey : key a < key b := key_lt_key_iff.mpr (.inr ⟨hlevel, hzero, hlt⟩)
        rw [(cmp_eq_lt_iff _ _).mpr hlt, (cmp_eq_lt_iff _ _).mpr hkey]
      · rw [cmp_self_eq_eq, cmp_self_eq_eq]
      · have hkey : key b < key a :=
          key_lt_key_iff.mpr (.inr ⟨hlevel.symm, hlevel.symm.trans hzero, hgt⟩)
        rw [(cmp_eq_gt_iff _ _).mpr hgt, (cmp_eq_gt_iff _ _).mpr hkey]
    · have hkey : key a = key b := by
        unfold key
        simp only [exactValue_eq_zero_iff, ← hlevel]
        rw [if_neg hzero, if_neg hzero, exactValue_eq_exactValue_iff.mpr hlevel]
      rw [if_neg hzero, hkey, cmp_self_eq_eq]
  · rw [Int.compare_eq_gt.mpr hgt, (cmp_eq_gt_iff _ _).mpr (key_lt_key_iff.mpr (.inl hgt))]
    rfl

/-- Different tags may be level, here with one value in two spellings. -/
example : compare "1.0" "v100" = .eq := by decide

theorem compare_swap (a b : String) : (compare a b).swap = compare b a := by
  rw [compare_eq_cmp_key, compare_eq_cmp_key, cmp_swap]

theorem compare_eq_eq_trans {a b c : String} (hab : compare a b = .eq) (hbc : compare b c = .eq) :
    compare a c = .eq := by
  rw [compare_eq_cmp_key, cmp_eq_eq_iff] at hab hbc ⊢
  exact hab.trans hbc

/-- The order of tags is a total preorder: that of their keys. -/
theorem compare_is_preorder (a b c : String) :
    ¬ (value a).IsNaN ∧
    compare a a = .eq ∧
    compare b a = (compare a b).swap ∧
    (compare a b ≠ .gt → compare b c ≠ .gt → compare a c ≠ .gt) ∧
    (compare a b = .eq → compare b c = .eq → compare a c = .eq) ∧
    compare a b = cmp (key a) (key b) := by
  refine ⟨value_not_isNaN a, ?_, ?_, ?_, ?_, ?_⟩
  · rw [compare_eq_cmp_key, cmp_self_eq_eq]
  · exact (compare_swap a b).symm
  · exact compare_ne_gt_trans
  · exact compare_eq_eq_trans
  · exact compare_eq_cmp_key a b

end Tag
end PluginRelease
