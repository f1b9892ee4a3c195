import PluginRelease.Yaml.Meaning
import PluginRelease.Proofs.Decimal.Numeral
import PluginRelease.Proofs.Text.Digit

/-!
What digits and points mean. As an integer of 64 bits they are the numeral of what is read, and
as a text they are the text; any other number that is read does not tell which digits it had.
-/
namespace PluginRelease.Yaml.Meaning
open Text

def isNumeric (c : Char) : Bool := c.isDigit || c == '.'

/-- Digits that are read as a number which does not keep them: an integer of more than 64 bits,
or a decimal. Of both kinds, those that are too large for a number are not read as one. -/
inductive IsUnkept : List Char → Prop
  | integer {n : Nat} (hlarge : 2 ^ 64 ≤ n) (hfinite : (n : ℚ) < Binary64.overflow) :
      IsUnkept (Nat.toDigits 10 n)
  | decimal {whole part : List Char} (hwhole : ∀ c ∈ whole, c.isDigit = true)
      (hpart : ∀ c ∈ part, c.isDigit = true) (hne : whole ≠ [] ∨ part ≠ [])
      (hfinite : (decimalValue whole + decimalValue part / 10 ^ part.length : ℚ) <
        Binary64.overflow) : IsUnkept (whole ++ '.' :: part)

theorem isNumeric_of_isDigit {c : Char} (h : c.isDigit = true) : isNumeric c = true := by
  rw [isNumeric, h, Bool.true_or]

/-! ## Digits -/

theorem digitStep_of_isDigit {c : Char} (h : c.isDigit = true) (n : Nat) :
    digitStep 10 n c = some (10 * n + digitValue c) := by
  have hvalue : hexDigitValue? c = some (digitValue c) := if_pos h
  rw [digitStep, hvalue, Option.bind_some, if_pos (digitValue_lt h)]

theorem foldlM_digitStep_of_digits {s : List Char} (hs : ∀ c ∈ s, c.isDigit = true) (n : Nat) :
    s.foldlM (digitStep 10) n = some (s.foldl (fun n c => 10 * n + digitValue c) n) := by
  induction s generalizing n with
  | nil => rfl
  | cons c cs ih =>
    obtain ⟨hc, hcs⟩ := List.forall_mem_cons.mp hs
    rw [List.foldlM_cons, digitStep_of_isDigit hc]
    exact ih hcs _

theorem natOfDigits?_of_digits {s : List Char} (hne : s ≠ []) (hs : ∀ c ∈ s, c.isDigit = true) :
    natOfDigits? 10 s = some (decimalValue s) := by
  rw [natOfDigits?_eq hne, foldlM_digitStep_of_digits hs]
  rfl

theorem natOfDigits?_of_point {s : List Char} (h : '.' ∈ s) : natOfDigits? 10 s = none := by
  rw [natOfDigits?_eq (List.ne_nil_of_mem h)]
  cases hfold : s.foldlM (digitStep 10) 0 with
  | none => rfl
  | some m => exact absurd (toNat_of_foldlM_digitStep hfold '.' h).1 (by decide)

/-! ## The kinds of scalars

A word of letters, a sign or a mark of another base is not among digits and points, so none of
the other readings applies. -/

section Numeric
variable {s : List Char} (hs : ∀ c ∈ s, isNumeric c = true)
include hs

theorem ne_of_not_numeric {w : List Char} (hw : w.all isNumeric = false) : s ≠ w := by
  rintro rfl
  rw [List.all_eq_true.mpr hs] at hw
  cases hw

theorem not_any_word {words : List String}
    (hwords : ∀ w ∈ words, w.toList.all isNumeric = false) :
    (words.any fun w => w.toList == s) = false := by
  rw [List.any_eq_false]
  intro w hw heq
  exact ne_of_not_numeric hs (hwords w hw) (beq_iff_eq.mp heq).symm

theorem isNull_eq_false : isNull s = false := not_any_word hs (by decide)

theorem bool?_eq_none : bool? s = none := by
  rw [bool?, not_any_word hs (by decide), not_any_word hs (by decide)]
  rfl

theorem dropSign_eq : dropSign s = s := by
  unfold dropSign
  split
  · exact absurd (hs '-' List.mem_cons_self) (by decide)
  · exact absurd (hs '+' List.mem_cons_self) (by decide)
  · rfl

theorem magnitude?_eq :
    magnitude? s = if isZeroPadded s then none else natOfDigits? 10 s := by
  unfold magnitude?
  split
  · exact absurd (hs 'x' (by simp)) (by decide)
  · exact absurd (hs 'o' (by simp)) (by decide)
  · exact absurd (hs 'b' (by simp)) (by decide)
  · rfl

theorem integer?_eq : integer? s = (magnitude? s).map Int.ofNat := by
  unfold integer?
  split
  · exact absurd (hs '-' List.mem_cons_self) (by decide)
  · exact absurd (hs '+' List.mem_cons_self) (by decide)
  · rfl

theorem not_mem_words {words : List (List Char)} (hwords : ∀ w ∈ words, w.all isNumeric = false) :
    s ∉ words :=
  fun hmem => ne_of_not_numeric hs (hwords s hmem) rfl

theorem head?_ne {d : Char} (hd : isNumeric d = false) : s.head? ≠ some d := by
  intro hhead
  rw [hs d (List.mem_of_head? hhead)] at hd
  cases hd

theorem float?_eq : float? s = (Decimal.parse? s).bind fun d =>
    if d.toBinary64.isFinite then some (.float d.toBinary64) else none := by
  have hplus : s.head? ≠ some '+' := head?_ne hs (by decide)
  have hminus : s.head? ≠ some '-' := head?_ne hs (by decide)
  have hinfinity : s ∉ infinityWords := not_mem_words hs (by decide)
  have hnan : s ∉ nanWords := not_mem_words hs (by decide)
  unfold float?
  split
  · exact absurd (hs '+' List.mem_cons_self) (by decide)
  · simp [hplus, hminus, hinfinity, hnan]

theorem ofPlain_eq (hne : s ≠ []) : ofPlain s =
    match intMeaning? s with
    | some m => m
    | none =>
      if isZeroPadded s then text
      else match float? s with
        | some x => number x
        | none => text := by
  have hempty : (s.isEmpty || isNull s) = false := by
    rw [isNull_eq_false hs, Bool.or_false, List.isEmpty_eq_false_iff]
    exact hne
  rw [ofPlain, hempty, bool?_eq_none hs]
  rfl

theorem takeSign_eq : Decimal.takeSign s = (false, s) := by
  unfold Decimal.takeSign
  split
  · exact absurd (hs '-' List.mem_cons_self) (by decide)
  · exact absurd (hs '+' List.mem_cons_self) (by decide)
  · rfl

/-- A decimal is a number unless it is too large for one. -/
theorem float?_of_parse {d : Decimal} (hd : Decimal.parse? s = some d) :
    float? s = if d.toBinary64.isFinite then some (.float d.toBinary64) else none := by
  rw [float?_eq hs, hd, Option.bind_some]

end Numeric

theorem isFinite_toBinary64_iff (d : Decimal) :
    d.toBinary64.isFinite = true ↔ d.size < Binary64.overflow := by
  rw [Binary64.isFinite, decide_eq_true_eq]
  exact d.toBinary64_isDouble.2.lt_infinity_iff

/-! ## Integers -/

theorem ofInteger?_natCast (n : Nat) : ofInteger? n =
    if n < 2 ^ 64 then some (number (.integer n))
    else if n < 2 ^ 128 then some (wideInteger n) else none := by
  have h63 : Int.pow 2 63 = 2 ^ 63 := rfl
  have h64 : Int.pow 2 64 = 2 ^ 64 := rfl
  have h127 : Int.pow 2 127 = 2 ^ 127 := rfl
  have h128 : Int.pow 2 128 = 2 ^ 128 := rfl
  rw [ofInteger?, h63, h64, h127, h128]
  by_cases hsmall : n < 2 ^ 64
  · rw [if_pos (by omega), if_pos hsmall]
  · rw [if_neg (by omega), if_neg hsmall]
    by_cases hwide : n < 2 ^ 128
    · rw [if_pos (by omega), if_pos hwide]
    · rw [if_neg (by omega), if_neg hwide]

theorem isZeroPadded_zero_cons {s : List Char} (hne : s ≠ []) (hs : ∀ c ∈ s, c.isDigit = true) :
    isZeroPadded ('0' :: s) = true := by
  obtain ⟨c, cs, rfl⟩ := List.exists_cons_of_ne_nil hne
  exact List.all_eq_true.mpr hs

theorem isZeroPadded_of_point {s : List Char} (hs : ∀ c ∈ s, isNumeric c = true) (h : '.' ∈ s) :
    isZeroPadded s = false := by
  unfold isZeroPadded
  rw [dropSign_eq hs]
  split
  · next c cs =>
    have hmem : '.' ∈ c :: cs := by simpa using h
    rw [List.all_eq_false]
    exact ⟨'.', hmem, by decide⟩
  · rfl

theorem isNumeric_of_mem_toDigits {n : Nat} : ∀ c ∈ Nat.toDigits 10 n, isNumeric c = true :=
  fun _ hc => isNumeric_of_isDigit (Nat.isDigit_of_mem_toDigits (by decide) (by decide) hc)

/-- A numeral starts with a zero only if it is one. -/
theorem isZeroPadded_toDigits (n : Nat) : isZeroPadded (Nat.toDigits 10 n) = false := by
  unfold isZeroPadded
  rw [dropSign_eq isNumeric_of_mem_toDigits]
  split
  · next c cs hzero =>
    have hdigits : ∀ d ∈ c :: cs, d.isDigit = true := by
      intro d hd
      refine Nat.isDigit_of_mem_toDigits (b := 10) (n := n) (by decide) (by decide) ?_
      rw [hzero]
      exact List.mem_cons_of_mem '0' hd
    obtain ⟨k, hk⟩ := exists_eq_zeros_append (List.cons_ne_nil c cs) hdigits
    have hvalue : decimalValue (c :: cs) = n := by
      rw [← decimalValue_toDigits n, hzero]
      exact (decimalValue_zeros_append 1 (c :: cs)).symm
    have hlength := congrArg List.length hzero
    rw [hk, hvalue] at hlength
    simp only [List.length_cons, List.length_append] at hlength
    omega
  · rfl

theorem intMeaning?_toDigits (n : Nat) :
    intMeaning? (Nat.toDigits 10 n) = ofInteger? n := by
  have hs : ∀ c ∈ Nat.toDigits 10 n, isNumeric c = true := isNumeric_of_mem_toDigits
  have hdigits : ∀ c ∈ Nat.toDigits 10 n, c.isDigit = true :=
    fun _ hc => Nat.isDigit_of_mem_toDigits (by decide) (by decide) hc
  rw [intMeaning?, integer?_eq hs, magnitude?_eq hs, isZeroPadded_toDigits,
    if_neg (by decide), natOfDigits?_of_digits Nat.toDigits_ne_nil hdigits, decimalValue_toDigits,
    Option.map_some, Option.bind_some, Int.ofNat_eq_natCast]

theorem intMeaning?_of_padded {s : List Char} (hs : ∀ c ∈ s, isNumeric c = true)
    (h : isZeroPadded s = true) : intMeaning? s = none := by
  rw [intMeaning?, integer?_eq hs, magnitude?_eq hs, if_pos h]
  rfl

theorem intMeaning?_of_point {s : List Char} (hs : ∀ c ∈ s, isNumeric c = true) (h : '.' ∈ s) :
    intMeaning? s = none := by
  rw [intMeaning?, integer?_eq hs, magnitude?_eq hs, isZeroPadded_of_point hs h,
    if_neg (by decide), natOfDigits?_of_point h]
  rfl

theorem parse?_of_digits {s : List Char} (hne : s ≠ []) (hs : ∀ c ∈ s, c.isDigit = true) :
    ∃ d, Decimal.parse? s = some d ∧ d.size = decimalValue s := by
  have hsign : Decimal.takeSign s = (false, s ++ ([] ++ [])) := by
    rw [List.append_nil, List.append_nil]
    exact takeSign_eq fun c hc => isNumeric_of_isDigit (hs c hc)
  refine ⟨_, Decimal.parse?_eq hsign hs (by simp) (.inl hne) (.inl ⟨rfl, rfl⟩)
    (.inl ⟨rfl, rfl⟩), ?_⟩
  rw [Decimal.size_ofParts]
  simp [show decimalValue [] = 0 from rfl]

/-! ## Decimals -/

section Decimal
variable {whole part : List Char} (hwhole : ∀ c ∈ whole, c.isDigit = true)
  (hpart : ∀ c ∈ part, c.isDigit = true)
include hwhole hpart

theorem isNumeric_of_mem_decimal : ∀ c ∈ whole ++ '.' :: part, isNumeric c = true := by
  rw [List.forall_mem_append, List.forall_mem_cons]
  exact ⟨fun c hc => isNumeric_of_isDigit (hwhole c hc), rfl,
    fun c hc => isNumeric_of_isDigit (hpart c hc)⟩

theorem parse?_of_decimal (hne : whole ≠ [] ∨ part ≠ []) :
    ∃ d, Decimal.parse? (whole ++ '.' :: part) = some d ∧
      d.size = decimalValue whole + decimalValue part / 10 ^ part.length := by
  have hsign : Decimal.takeSign (whole ++ '.' :: part) =
      (false, whole ++ ('.' :: part ++ [])) := by
    rw [List.append_nil]
    exact takeSign_eq (isNumeric_of_mem_decimal hwhole hpart)
  refine ⟨_, Decimal.parse?_eq hsign hwhole hpart hne (.inr rfl) (.inl ⟨rfl, rfl⟩), ?_⟩
  rw [Decimal.size_ofParts, zpow_zero, mul_one]

/-- A second point ends what may be a number. -/
theorem parse?_of_points {rest : List Char} (hrest : ∀ c ∈ rest, isNumeric c = true) :
    Decimal.parse? (whole ++ '.' :: (part ++ '.' :: rest)) = none := by
  have hs : ∀ c ∈ whole ++ '.' :: (part ++ '.' :: rest), isNumeric c = true := by
    rw [List.forall_mem_append, List.forall_mem_cons, List.forall_mem_append,
      List.forall_mem_cons]
    exact ⟨fun c hc => isNumeric_of_isDigit (hwhole c hc), rfl,
      fun c hc => isNumeric_of_isDigit (hpart c hc), rfl, hrest⟩
  have hpoint (r : List Char) : ∀ c ∈ ('.' :: r).head?, c.isDigit = false := by
    rintro c ⟨⟩
    rfl
  unfold Decimal.parse?
  rw [takeSign_eq hs]
  dsimp only
  rw [takeWhile_run hwhole (hpoint _), dropWhile_run hwhole (hpoint _)]
  simp [takeWhile_run hpart (hpoint _), dropWhile_run hpart (hpoint _)]

end Decimal

/-! ## The meaning -/

theorem exists_digits_or_point {s : List Char} (hs : ∀ c ∈ s, isNumeric c = true) :
    (∀ c ∈ s, c.isDigit = true) ∨
      ∃ whole rest, (∀ c ∈ whole, c.isDigit = true) ∧ (∀ c ∈ rest, isNumeric c = true) ∧
        s = whole ++ '.' :: rest := by
  induction s with
  | nil => exact .inl (by simp)
  | cons c cs ih =>
    obtain ⟨hc, hcs⟩ := List.forall_mem_cons.mp hs
    cases hdigit : c.isDigit with
    | false =>
      obtain rfl : c = '.' := by simpa [isNumeric, hdigit] using hc
      exact .inr ⟨[], cs, by simp, hcs, rfl⟩
    | true =>
      rcases ih hcs with hdigits | ⟨whole, rest, hwhole, hrest, rfl⟩
      · exact .inl (List.forall_mem_cons.mpr ⟨hdigit, hdigits⟩)
      · exact .inr ⟨c :: whole, rest, List.forall_mem_cons.mpr ⟨hdigit, hwhole⟩, hrest, rfl⟩

theorem ofPlain_of_unkept {s : List Char} (h : IsUnkept s) :
    (∃ n, ofPlain s = wideInteger n) ∨ ∃ x, ofPlain s = number (.float x) := by
  cases h with
  | @integer n hlarge hfinite =>
    have hne : Nat.toDigits 10 n ≠ [] := Nat.toDigits_ne_nil
    rw [ofPlain_eq isNumeric_of_mem_toDigits hne, intMeaning?_toDigits, ofInteger?_natCast,
      if_neg (Nat.not_lt.mpr hlarge)]
    by_cases hwide : n < 2 ^ 128
    · rw [if_pos hwide]
      exact .inl ⟨n, rfl⟩
    · obtain ⟨d, hd, hsize⟩ := parse?_of_digits hne
        fun _ hc => Nat.isDigit_of_mem_toDigits (by decide) (by decide) hc
      rw [decimalValue_toDigits] at hsize
      rw [← hsize] at hfinite
      rw [if_neg hwide, isZeroPadded_toDigits, float?_of_parse isNumeric_of_mem_toDigits hd,
        if_pos ((isFinite_toBinary64_iff d).mpr hfinite)]
      exact .inr ⟨_, rfl⟩
  | decimal hwhole hpart hne hfinite =>
    have hs := isNumeric_of_mem_decimal hwhole hpart
    obtain ⟨d, hd, hsize⟩ := parse?_of_decimal hwhole hpart hne
    rw [← hsize] at hfinite
    rw [ofPlain_eq hs (by simp), intMeaning?_of_point hs (by simp),
      isZeroPadded_of_point hs (by simp), float?_of_parse hs hd,
      if_pos ((isFinite_toBinary64_iff d).mpr hfinite)]
    exact .inr ⟨_, rfl⟩

theorem two_pow_le_overflow : 2 ^ 128 ≤ Binary64.overflow := by
  have hsum : 2 ^ 128 + 2 ^ 970 ≤ 2 ^ 1024 := by decide +kernel
  rw [Binary64.overflow, le_sub_iff_add_le]
  exact_mod_cast hsum

theorem ofPlain_toDigits_of_kept {n : Nat} (h : ¬ IsUnkept (Nat.toDigits 10 n)) :
    ofPlain (Nat.toDigits 10 n) = text ∨
      ofPlain (Nat.toDigits 10 n) = number (.integer n) := by
  have hne : Nat.toDigits 10 n ≠ [] := Nat.toDigits_ne_nil
  rw [ofPlain_eq isNumeric_of_mem_toDigits hne, intMeaning?_toDigits, ofInteger?_natCast]
  by_cases hsmall : n < 2 ^ 64
  · rw [if_pos hsmall]
    exact .inr rfl
  · -- What is too large to be unkept is too large for a number.
    have hoverflow : Binary64.overflow ≤ n :=
      not_lt.mp fun hfinite => h (.integer (Nat.not_lt.mp hsmall) hfinite)
    have hlarge : 2 ^ 128 ≤ n := by exact_mod_cast two_pow_le_overflow.trans hoverflow
    obtain ⟨d, hd, hsize⟩ := parse?_of_digits hne
      fun _ hc => Nat.isDigit_of_mem_toDigits (by decide) (by decide) hc
    rw [decimalValue_toDigits] at hsize
    rw [← hsize] at hoverflow
    rw [if_neg hsmall, if_neg (Nat.not_lt.mpr hlarge), isZeroPadded_toDigits,
      float?_of_parse isNumeric_of_mem_toDigits hd,
      if_neg (mt (isFinite_toBinary64_iff d).mp (not_lt.mpr hoverflow))]
    exact .inl rfl

theorem ofPlain_decimal_of_kept {whole part : List Char} (hwhole : ∀ c ∈ whole, c.isDigit = true)
    (hpart : ∀ c ∈ part, c.isDigit = true) (h : ¬ IsUnkept (whole ++ '.' :: part)) :
    ofPlain (whole ++ '.' :: part) = text := by
  by_cases hne : whole ≠ [] ∨ part ≠ []
  · have hs := isNumeric_of_mem_decimal hwhole hpart
    obtain ⟨d, hd, hsize⟩ := parse?_of_decimal hwhole hpart hne
    have hoverflow : Binary64.overflow ≤ d.size :=
      not_lt.mp fun hfinite => h (.decimal hwhole hpart hne (hsize ▸ hfinite))
    rw [ofPlain_eq hs (by simp), intMeaning?_of_point hs (by simp),
      isZeroPadded_of_point hs (by simp), float?_of_parse hs hd,
      if_neg (mt (isFinite_toBinary64_iff d).mp (not_lt.mpr hoverflow))]
    rfl
  · obtain ⟨rfl, rfl⟩ : whole = [] ∧ part = [] := by simpa using hne
    decide

/-- Digits and points that are not unkept are the numeral of what is read, or are no number. -/
theorem ofPlain_of_kept {s : List Char} (hne : s ≠ []) (hs : ∀ c ∈ s, isNumeric c = true)
    (h : ¬ IsUnkept s) :
    ofPlain s = text ∨ ∃ n : Nat, s = Nat.toDigits 10 n ∧ ofPlain s = number (.integer n) := by
  rcases exists_digits_or_point hs with hdigits | ⟨whole, rest, hwhole, hrest, rfl⟩
  · obtain ⟨k, hk⟩ := exists_eq_zeros_append hne hdigits
    cases k with
    | zero =>
      rw [List.replicate_zero, List.nil_append] at hk
      rw [hk] at h ⊢
      exact (ofPlain_toDigits_of_kept h).imp_right fun hinteger => ⟨_, rfl, hinteger⟩
    | succ k =>
      have hpadded : isZeroPadded s = true := by
        rw [hk, List.replicate_succ, List.cons_append]
        exact isZeroPadded_zero_cons (by simp) fun _ hc => isDigit_of_mem_numeral hc
      rw [ofPlain_eq hs hne, intMeaning?_of_padded hs hpadded, hpadded]
      exact .inl rfl
  · rcases exists_digits_or_point hrest with hpart | ⟨part, later, hpart, hlater, rfl⟩
    · exact .inl (ofPlain_decimal_of_kept hwhole hpart h)
    · rw [ofPlain_eq hs hne, intMeaning?_of_point hs (by simp),
        isZeroPadded_of_point hs (by simp), float?_eq hs, parse?_of_points hwhole hpart hlater]
      exact .inl rfl

end PluginRelease.Yaml.Meaning
