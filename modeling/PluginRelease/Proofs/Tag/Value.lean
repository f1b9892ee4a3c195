import PluginRelease.Proofs.Tag.Numeral

/-!
The value of a tag. What a tag is read from stands for a number, and the value is the double of
that number: of the hundredths of a tag of digits, of the longest numeral of another tag.
-/
namespace PluginRelease.Tag
open Text Binary64

/-! ## The number of a numeral -/

theorem takeSign_text (s : Sign) {t : List Char} (ht : ∀ c ∈ t.head?, c ≠ '+' ∧ c ≠ '-') :
    Decimal.takeSign (s.text ++ t) = (s.isMinus, t) := by
  cases s with
  | unsigned =>
    rw [Sign.text, List.nil_append]
    unfold Decimal.takeSign
    split
    · exact absurd rfl (ht '-' rfl).2
    · exact absurd rfl (ht '+' rfl).1
    · rfl
  | plus => rfl
  | minus => rfl

/-- A mantissa as digits before a point and digits behind it. -/
theorem Mantissa.exists_parts (m : Mantissa) :
    ∃ whole fraction part, plain m.text = whole ++ fraction ∧
      (∀ c ∈ whole, c.isDigit = true) ∧ (∀ c ∈ part, c.isDigit = true) ∧
      (whole ≠ [] ∨ part ≠ []) ∧ (fraction = [] ∧ part = [] ∨ fraction = '.' :: part) ∧
      m.size = decimalValue whole + decimalValue part / 10 ^ part.length := by
  have hpoint (p : Group) : plain ('.' :: p.text) = '.' :: plain p.text := rfl
  have hzero : (decimalValue [] : ℚ) = 0 := Nat.cast_zero
  cases m with
  | whole w =>
    refine ⟨plain w.text, [], [], (List.append_nil _).symm, w.isDigit_of_mem_plain, nofun,
      .inl w.plain_ne_nil, .inl ⟨rfl, rfl⟩, ?_⟩
    rw [hzero, zero_div, add_zero]
    rfl
  | mixed w p =>
    refine ⟨plain w.text, '.' :: plain p.text, plain p.text, ?_, w.isDigit_of_mem_plain,
      p.isDigit_of_mem_plain, .inl w.plain_ne_nil, .inr rfl, rfl⟩
    rw [text, plain_append, hpoint]
  | part p =>
    refine ⟨[], '.' :: plain p.text, plain p.text, hpoint p, nofun, p.isDigit_of_mem_plain,
      .inr p.plain_ne_nil, .inr rfl, ?_⟩
    rw [hzero, zero_add]
    rfl

theorem exponentValue?_optionText (e : Option Exponent) :
    plain (Exponent.optionText e) = [] ∧ e.elim 0 Exponent.value = 0 ∨
      ∃ c r, plain (Exponent.optionText e) = c :: r ∧ (c = 'e' ∨ c = 'E') ∧
        Decimal.exponentValue? r = some (e.elim 0 Exponent.value) := by
  cases e with
  | none => exact .inl ⟨rfl, rfl⟩
  | some e =>
    have hmark : e.mark ≠ '_' := by
      rcases e.mark_eq with h | h <;> rw [h] <;> decide
    have hdigits := e.digits.isDigit_of_mem_plain
    have hhead : ∀ c ∈ (plain e.digits.text).head?, c ≠ '+' ∧ c ≠ '-' := by
      intro c hc
      have hdigit := hdigits c (List.mem_of_head? hc)
      constructor <;> rintro rfl <;> exact absurd hdigit (by decide)
    refine .inr ⟨e.mark, e.sign.text ++ plain e.digits.text, ?_, e.mark_eq, ?_⟩
    · rw [Exponent.optionText, Exponent.text, plain_cons hmark, plain_append, e.sign.plain_text]
    · exact Decimal.exponentValue?_eq (takeSign_text e.sign hhead) hdigits e.digits.plain_ne_nil

/-- Every numeral is read, as the number that its parts stand for. -/
theorem Numeral.exists_parse? (n : Numeral) :
    ∃ d, Decimal.parse? (plain n.text) = some d ∧ d.negative = n.sign.isMinus ∧ d.size = n.size := by
  obtain ⟨whole, fraction, part, hplain, hwhole, hpart, hne, hfraction, hsize⟩ :=
    n.mantissa.exists_parts
  have hhead : ∀ c ∈ (whole ++ (fraction ++ plain (Exponent.optionText n.exponent))).head?,
      c ≠ '+' ∧ c ≠ '-' := by
    intro c hc
    have hmantissa : c ∈ plain n.mantissa.text := by
      have hfull : whole ++ fraction ≠ [] := by
        rcases hne with hne | hne <;> rcases hfraction with ⟨rfl, rfl⟩ | rfl <;> simp_all
      rw [← List.append_assoc, List.head?_append_of_ne_nil _ hfull] at hc
      rw [hplain]
      exact List.mem_of_head? hc
    have hmem := n.mantissa.mem_text c (List.mem_of_mem_filter hmantissa)
    constructor <;> rintro rfl <;> exact absurd hmem (by decide)
  have hsign : Decimal.takeSign (plain n.text) =
      (n.sign.isMinus, whole ++ (fraction ++ plain (Exponent.optionText n.exponent))) := by
    rw [← takeSign_text n.sign hhead, Numeral.text, plain_append, plain_append, n.sign.plain_text,
      hplain, List.append_assoc]
  refine ⟨_, Decimal.parse?_eq hsign hwhole hpart hne hfraction
    (exponentValue?_optionText n.exponent), rfl, ?_⟩
  rw [Decimal.size_ofParts, ← hsize]
  rfl

theorem numeralValue_isDouble (n : Numeral) :
    IsDouble n.sign.isMinus n.size (numeralValue (plain n.text)) := by
  obtain ⟨d, hparse, hnegative, hsize⟩ := n.exists_parse?
  have hvalue : numeralValue (plain n.text) = d.toBinary64 := by
    rw [numeralValue, hparse]
    rfl
  rw [hvalue, ← hnegative, ← hsize]
  exact d.toBinary64_isDouble

/-! ## Tags of digits -/

/-- The digits of a tag that counts in hundredths, which may stand behind a `v`. -/
structure IsHundredths (s ds : List Char) : Prop where
  ne_nil : ds ≠ []
  digits : ∀ c ∈ ds, c.isDigit = true
  eq : s = ds ∨ s = 'v' :: ds

theorem hundredths?_eq_some_iff {s ds : List Char} (hs : HasAsciiDigits s) :
    hundredths? s = some ds ↔ IsHundredths s ds := by
  obtain ⟨r, hr⟩ : ∃ r, (if s.head? = some 'v' then s.tail else s) = r := ⟨_, rfl⟩
  have hread : hundredths? s =
      if !r.isEmpty && r.all isDecimalDigit then some r else none := by
    rw [← hr]
    rfl
  rw [hread, Option.ite_none_right_eq_some]
  simp only [Bool.and_eq_true, Bool.not_eq_true', List.isEmpty_eq_false_iff, List.all_eq_true,
    Option.some.injEq]
  constructor
  · rintro ⟨⟨hne, hds⟩, rfl⟩
    by_cases hhead : s.head? = some 'v'
    · rw [if_pos hhead] at hr
      obtain ⟨t, rfl⟩ := List.head?_eq_some_iff.mp hhead
      obtain rfl : t = r := hr
      exact ⟨hne, fun c hc => hs.tail c hc (hds c hc), .inr rfl⟩
    · rw [if_neg hhead] at hr
      rw [hr] at hs
      exact ⟨hne, fun c hc => hs c hc (hds c hc), .inl hr⟩
  · rintro ⟨hne, hds, heq⟩
    have hrest : r = ds := by
      rw [← hr]
      rcases heq with rfl | rfl
      · exact if_neg fun hhead => absurd (hds 'v' (List.mem_of_head? hhead)) (by decide)
      · exact if_pos rfl
    rw [hrest]
    exact ⟨⟨hne, fun c hc => isDecimalDigit_of_isDigit (hds c hc)⟩, rfl⟩

theorem isGroup_of_digits {ds : List Char} (hne : ds ≠ []) (hds : ∀ c ∈ ds, c.isDigit = true) :
    IsGroup ds := by
  induction ds with
  | nil => exact absurd rfl hne
  | cons c cs ih =>
    have hc := hds c List.mem_cons_self
    by_cases hcs : cs = []
    · rw [hcs]
      exact .digit hc
    · exact .adjacent hc (ih hcs fun d hd => hds d (List.mem_cons_of_mem c hd))

/-- A run of digits as a group. -/
def Group.ofDigits (ds : List Char) (hne : ds ≠ []) (hds : ∀ c ∈ ds, c.isDigit = true) : Group :=
  ⟨ds, isGroup_of_digits hne hds⟩

theorem plain_of_digits {ds : List Char} (hds : ∀ c ∈ ds, c.isDigit = true) : plain ds = ds :=
  List.filter_eq_self.mpr fun c hc => decide_eq_true (ne_underscore_of_isDigit (hds c hc))

/-- A run of digits stands for its integer. -/
theorem numeralValue_digits {ds : List Char} (hne : ds ≠ []) (hds : ∀ c ∈ ds, c.isDigit = true) :
    (Decimal.parse? ds).isSome = true ∧ IsDouble false (decimalValue ds) (numeralValue ds) := by
  obtain ⟨n, hn⟩ : ∃ n : Numeral, n = ⟨.unsigned, .whole (.ofDigits ds hne hds), none⟩ := ⟨_, rfl⟩
  have htext : n.text = ds := by
    rw [hn]
    exact List.append_nil ds
  have hplain : plain n.text = ds := by rw [htext, plain_of_digits hds]
  have hsize : n.size = decimalValue ds := by
    rw [hn, Numeral.size, Mantissa.size, Group.value, Group.ofDigits, plain_of_digits hds,
      Option.elim_none, zpow_zero, mul_one]
  have hsign : n.sign.isMinus = false := by
    rw [hn]
    rfl
  obtain ⟨d, hparse, -⟩ := n.exists_parse?
  have hdouble := numeralValue_isDouble n
  rw [hplain] at hparse hdouble
  rw [hparse, ← hsize, ← hsign]
  exact ⟨rfl, hdouble⟩

/-! ## The value of a tag -/

theorem value_of_hundredths {tag : String} {ds : List Char} (hs : HasAsciiDigits tag.toList)
    (h : IsHundredths tag.toList ds) :
    ∃ x, IsDouble false (decimalValue ds) x ∧ IsQuotient x 100 (value tag) := by
  have hvalue : value tag = (numeralValue ds).divNat 100 := by
    rw [value, (hundredths?_eq_some_iff hs).mpr h]
  refine ⟨numeralValue ds, (numeralValue_digits h.ne_nil h.digits).2, ?_⟩
  rw [hvalue]
  exact divNat_isQuotient _ (by decide)

theorem hundredths?_eq_none {s : List Char} (hs : HasAsciiDigits s)
    (hnot : ∀ ds, ¬ IsHundredths s ds) : hundredths? s = none := by
  cases h : hundredths? s with
  | none => rfl
  | some ds => exact absurd ((hundredths?_eq_some_iff hs).mp h) (hnot ds)

theorem value_of_longest {tag : String} {n : Numeral} (hs : HasAsciiDigits tag.toList)
    (hnot : ∀ ds, ¬ IsHundredths tag.toList ds)
    (hn : Longest Numeral.text (trimStart tag.toList) n) :
    IsDouble n.sign.isMinus n.size (value tag) := by
  cases hread : numeral? tag.toList with
  | none => exact absurd hn.starts (numeral?_eq_none hread n)
  | some ds =>
    obtain ⟨m, rfl, hm⟩ := numeral?_eq_some hs hread
    have hvalue : value tag = numeralValue (plain n.text) := by
      rw [value, hundredths?_eq_none hs hnot, hread, hn.text_eq hm]
      rfl
    rw [hvalue]
    exact numeralValue_isDouble n

theorem value_eq_zero {tag : String} (hs : HasAsciiDigits tag.toList)
    (hnot : ∀ ds, ¬ IsHundredths tag.toList ds)
    (hnone : ∀ n : Numeral, ¬ n.text <+: trimStart tag.toList) : value tag = .zero := by
  cases hread : numeral? tag.toList with
  | none =>
    rw [value, hundredths?_eq_none hs hnot, hread]
    rfl
  | some ds =>
    obtain ⟨m, -, hm⟩ := numeral?_eq_some hs hread
    exact absurd hm.starts (hnone m)

theorem exists_longest {s : List Char} (hs : HasAsciiDigits s) {n : Numeral}
    (hn : n.text <+: trimStart s) : ∃ m, Longest Numeral.text (trimStart s) m := by
  cases hread : numeral? s with
  | none => exact absurd hn (numeral?_eq_none hread n)
  | some ds =>
    obtain ⟨m, -, hm⟩ := numeral?_eq_some hs hread
    exact ⟨m, hm⟩

/-- A tag of digits is worth their integer, as a double, divided by 100; any other tag the double
of the longest numeral behind its white space, and zero if there is none. All that is matched is
read as a number. -/
theorem value_reads_grammar {tag : String} (hs : HasAsciiDigits tag.toList) :
    (∀ ds, IsHundredths tag.toList ds →
      ∃ x, IsDouble false (decimalValue ds) x ∧ IsQuotient x 100 (value tag)) ∧
    ((∀ ds, ¬ IsHundredths tag.toList ds) →
      (∀ n, Longest Numeral.text (trimStart tag.toList) n →
        IsDouble n.sign.isMinus n.size (value tag)) ∧
      (∀ n : Numeral, n.text <+: trimStart tag.toList →
        ∃ m, Longest Numeral.text (trimStart tag.toList) m) ∧
      ((∀ n : Numeral, ¬ n.text <+: trimStart tag.toList) → value tag = .zero)) ∧
    (∀ ds, hundredths? tag.toList = some ds → (Decimal.parse? ds).isSome = true) ∧
    ∀ ds, numeral? tag.toList = some ds → (Decimal.parse? ds).isSome = true := by
  refine ⟨fun ds h => value_of_hundredths hs h, fun hnot => ⟨?_, ?_, ?_⟩, ?_, ?_⟩
  · exact fun n hn => value_of_longest hs hnot hn
  · exact fun n hn => exists_longest hs hn
  · exact fun hnone => value_eq_zero hs hnot hnone
  · intro ds hread
    have h := (hundredths?_eq_some_iff hs).mp hread
    exact (numeralValue_digits h.ne_nil h.digits).1
  · intro ds hread
    obtain ⟨n, rfl, -⟩ := numeral?_eq_some hs hread
    obtain ⟨d, hparse, -⟩ := n.exists_parse?
    rw [hparse]
    rfl

theorem value_reads_grammar_of_underscores :
    HasAsciiDigits " -1_0.2_5e1".toList ∧ IsDouble true (205 / 2) (value " -1_0.2_5e1") := by
  have hs : HasAsciiDigits " -1_0.2_5e1".toList := by decide
  have hnot : ∀ ds, ¬ IsHundredths " -1_0.2_5e1".toList ds := by
    intro ds h
    have hread := (hundredths?_eq_some_iff hs).mpr h
    have hnone : hundredths? " -1_0.2_5e1".toList = none := by decide
    rw [hnone] at hread
    cases hread
  have hone : Char.isDigit '1' = true := by decide
  have htwo : Char.isDigit '2' = true := by decide
  obtain ⟨n, hn⟩ : ∃ n : Numeral, n = ⟨.minus,
      .mixed ⟨['1', '_', '0'], .apart hone (.digit (by decide))⟩
        ⟨['2', '_', '5'], .apart htwo (.digit (by decide))⟩,
      some ⟨'e', .inl rfl, .unsigned, ⟨['1'], .digit hone⟩⟩⟩ := ⟨_, rfl⟩
  have htext : n.text = trimStart " -1_0.2_5e1".toList := by
    rw [hn]
    rfl
  have hlongest : Longest Numeral.text (trimStart " -1_0.2_5e1".toList) n :=
    ⟨htext ▸ List.prefix_rfl, fun b hb => htext ▸ hb.length_le⟩
  have hdouble := ((value_reads_grammar hs).2.1 hnot).1 n hlongest
  have hsize : n.size = 205 / 2 := by
    have hten : decimalValue (plain ['1', '_', '0']) = 10 := by decide
    have hpart : decimalValue (plain ['2', '_', '5']) = 25 := by decide
    have hexponent : decimalValue (plain ['1']) = 1 := by decide
    have hlength : (plain ['2', '_', '5']).length = 2 := by decide
    rw [hn]
    simp only [Numeral.size, Mantissa.size, Group.value, Option.elim_some, Exponent.value,
      Sign.isMinus, reduceCtorEq, hten, hpart, hexponent, hlength]
    norm_num
  rw [hsize, hn] at hdouble
  exact ⟨hs, hdouble⟩

end PluginRelease.Tag
