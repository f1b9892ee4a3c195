import PluginRelease.Proofs.Marker.Line
import PluginRelease.Proofs.Text.Decimal

/-!
Lines that set the version of a plugin. The reader accepts the lines of one grammar whose number
has 64 bits, and the version it makes of a number has every digit of it, so that the number can be
read back.
-/
namespace PluginRelease.Marker
open Text

/-! ## The version of a number -/

/-- The major number, a point, and two digits for the minor number. -/
def versionText (raw : Nat) : List Char :=
  Nat.toDigits 10 (raw / 100) ++
    '.' :: [Nat.digitChar (raw % 100 / 10), Nat.digitChar (raw % 10)]

theorem toList_repr (n : Nat) : (Nat.repr n).toList = Nat.toDigits 10 n := by
  rw [Nat.repr, String.toList_ofList]

theorem toDigits_pair {n : Nat} (h : 10 ≤ n) (hlt : n < 100) :
    Nat.toDigits 10 n = [Nat.digitChar (n / 10), Nat.digitChar (n % 10)] := by
  rw [Nat.toDigits_of_base_le (by decide) h, Nat.toDigits_of_lt_base (by omega)]
  rfl

theorem toList_formatVersion (raw : Nat) : (formatVersion raw).toList = versionText raw := by
  have hpoint : ".".toList = ['.'] := by decide
  have hzero : "0".toList = [Nat.digitChar 0] := by decide
  rw [formatVersion, versionText, String.toList_append, String.toList_append, toList_repr, hpoint,
    List.append_assoc, List.singleton_append]
  refine congrArg (fun minor => Nat.toDigits 10 (raw / 100) ++ '.' :: minor) ?_
  split
  · next hsmall =>
    have htens : raw % 100 / 10 = 0 := by omega
    have hunits : raw % 100 = raw % 10 := by omega
    rw [String.toList_append, toList_repr, hzero, Nat.toDigits_of_lt_base hsmall, htens, hunits,
      List.singleton_append]
  · next hlarge =>
    have hunits : raw % 100 % 10 = raw % 10 := by omega
    rw [toList_repr, toDigits_pair (by omega) (by omega), hunits]

theorem decimalValue_pair {a b : Nat} (ha : a < 10) (hb : b < 10) :
    decimalValue [Nat.digitChar a, Nat.digitChar b] = 10 * a + b := by
  have happend : [Nat.digitChar a, Nat.digitChar b] = Nat.toDigits 10 a ++ Nat.toDigits 10 b := by
    rw [Nat.toDigits_of_lt_base ha, Nat.toDigits_of_lt_base hb]
    rfl
  rw [happend, decimalValue_append, decimalValue_toDigits, decimalValue_toDigits,
    Nat.toDigits_of_lt_base hb]
  rfl

theorem isDigit_of_mem_pair {a b : Nat} (ha : a < 10) (hb : b < 10) :
    ∀ c ∈ [Nat.digitChar a, Nat.digitChar b], c.isDigit = true := by
  simp [Nat.isDigit_digitChar, ha, hb]

theorem isDigit_of_mem_toDigits {n : Nat} : ∀ c ∈ Nat.toDigits 10 n, c.isDigit = true :=
  fun _ hc => Nat.isDigit_of_mem_toDigits (by decide) (by decide) hc

theorem filter_point_of_digits {s : List Char} (hs : ∀ c ∈ s, c.isDigit = true) :
    s.filter (· ≠ '.') = s := by
  refine List.filter_eq_self.mpr fun c hc => decide_eq_true ?_
  rintro rfl
  exact absurd (hs '.' hc) (by decide)

/-- The digits of a version, without its point, are the digits of its number. -/
theorem decimalValue_versionText (raw : Nat) :
    decimalValue ((versionText raw).filter (· ≠ '.')) = raw := by
  have htens : raw % 100 / 10 < 10 := by omega
  have hunits : raw % 10 < 10 := by omega
  have hdigits : (versionText raw).filter (· ≠ '.') =
      Nat.toDigits 10 (raw / 100) ++
        [Nat.digitChar (raw % 100 / 10), Nat.digitChar (raw % 10)] := by
    rw [versionText, List.filter_append, List.filter_cons_of_neg (by decide),
      filter_point_of_digits isDigit_of_mem_toDigits,
      filter_point_of_digits (isDigit_of_mem_pair htens hunits)]
  calc decimalValue ((versionText raw).filter (· ≠ '.'))
      = 10 ^ 2 * (raw / 100) + (10 * (raw % 100 / 10) + raw % 10) := by
        rw [hdigits, decimalValue_append, decimalValue_toDigits, decimalValue_pair htens hunits]
        rfl
    _ = raw := by omega

theorem versionText_injective : Function.Injective versionText := by
  intro m n h
  rw [← decimalValue_versionText m, h, decimalValue_versionText]

/-! ## Lines -/

/-- A line, but for its end, that sets the version of a plugin. -/
def IsVersionLine (name number s : List Char) : Prop :=
  ∃ scope, (scope = [] ∨ scope = "g:".toList) ∧
    s = "let ".toList ++ (scope ++ ("loaded_".toList ++ name ++ " = ".toList ++ number))

/-- A start that may be missing, before a text that does not start so itself. -/
theorem getD_dropStart?_eq_iff {start s t : List Char} (ht : ¬ start <+: t) :
    (dropStart? start s).getD s = t ↔ s = t ∨ s = start ++ t := by
  cases h : dropStart? start s with
  | none =>
    refine ⟨.inl, ?_⟩
    rintro (rfl | rfl)
    · rfl
    · rw [dropStart?_eq_some_iff.mpr rfl] at h
      cases h
  | some r =>
    obtain rfl := dropStart?_eq_some_iff.mp h
    constructor
    · rintro rfl
      exact .inr rfl
    · rintro (rfl | h)
      · exact absurd (List.prefix_append start r) ht
      · exact List.append_cancel_left h

theorem scope_not_prefix (t : List Char) : ¬ "g:".toList <+: "loaded_".toList ++ t := by
  rintro ⟨r, h⟩
  have hg : "g:".toList.head? = some 'g' := by decide
  have hl : "loaded_".toList.head? = some 'l' := by decide
  have hhead := congrArg List.head? h
  rw [List.head?_append, List.head?_append, hg, hl, Option.some_or, Option.some_or] at hhead
  exact absurd hhead (by decide)

theorem isVersionLine_iff {name number s : List Char} :
    IsVersionLine name number s ↔
      ∃ r, s = "let ".toList ++ r ∧ (dropStart? "g:".toList r).getD r =
        "loaded_".toList ++ name ++ " = ".toList ++ number := by
  have hstart : ¬ "g:".toList <+: "loaded_".toList ++ name ++ " = ".toList ++ number := by
    rw [List.append_assoc, List.append_assoc]
    exact scope_not_prefix _
  simp only [getD_dropStart?_eq_iff hstart]
  constructor
  · rintro ⟨_, rfl | rfl, rfl⟩
    · exact ⟨_, rfl, .inl rfl⟩
    · exact ⟨_, rfl, .inr rfl⟩
  · rintro ⟨_, rfl, rfl | rfl⟩
    · exact ⟨[], .inl rfl, rfl⟩
    · exact ⟨_, .inr rfl, rfl⟩

theorem version?_eq_some_iff {name line v : String} :
    version? name line = some v ↔
      ∃ number, IsVersionLine name.toList number (chomp line.toList) ∧ number ≠ [] ∧
        (∀ c ∈ number, c.isDigit = true) ∧ decimalValue number < 2 ^ 64 ∧
        v = String.ofList (versionText (decimalValue number)) := by
  simp only [version?, Option.bind_eq_bind, Option.bind_eq_some_iff, dropStart?_eq_some_iff,
    Option.ite_none_right_eq_some, Bool.and_eq_true, Bool.not_eq_true', List.isEmpty_eq_false_iff,
    List.all_eq_true, decide_eq_true_eq, Option.some.injEq, isVersionLine_iff,
    ← toList_formatVersion, String.ofList_toList]
  constructor
  · rintro ⟨r, hline, number, hnumber, ⟨⟨hne, hdigits⟩, hlimit⟩, rfl⟩
    exact ⟨number, ⟨r, hline, hnumber⟩, hne, hdigits, hlimit, rfl⟩
  · rintro ⟨number, ⟨r, hline, hnumber⟩, hne, hdigits, hlimit, rfl⟩
    exact ⟨r, hline, number, hnumber, ⟨⟨hne, hdigits⟩, hlimit⟩, rfl⟩

/-- A line, with or without its end, that sets the version of a plugin to a number. -/
structure SetsVersion (name number line : List Char) : Prop where
  digits : IsDigitRun number
  line_eq : ∃ s e, IsVersionLine name number s ∧ IsLineEnd e ∧ line = s ++ e

/-- The line shows its last character. -/
theorem IsVersionLine.getLast?_ne {name number s : List Char} (h : IsVersionLine name number s)
    (hnumber : IsDigitRun number) : ∀ c ∈ s.getLast?, c ≠ '\n' ∧ c ≠ '\r' := by
  have hnewline {c : Char} (hc : isDecimalDigit c = true) : c ≠ '\n' ∧ c ≠ '\r' := by
    constructor
    · rintro rfl
      exact absurd hc (by decide)
    · rintro rfl
      exact absurd hc (by decide)
  obtain ⟨scope, -, rfl⟩ := h
  intro c hc
  have hlast := List.getLast?_eq_some_getLast hnumber.ne_nil
  simp only [List.getLast?_append, hlast, Option.some_or] at hc
  obtain rfl := Option.some.inj hc
  exact hnewline (hnumber.digits _ (List.getLast_mem hnumber.ne_nil))

theorem exists_versionLine_iff {name number line : List Char} (hnumber : IsDigitRun number) :
    (∃ s e, IsVersionLine name number s ∧ IsLineEnd e ∧ line = s ++ e) ↔
      IsVersionLine name number (chomp line) :=
  exists_line_iff fun _ h => h.getLast?_ne hnumber

theorem SetsVersion.isVersionLine {name number line : List Char}
    (h : SetsVersion name number line) : IsVersionLine name number (chomp line) :=
  (exists_versionLine_iff h.digits).mp h.line_eq

theorem IsVersionLine.setsVersion {name number line : List Char}
    (h : IsVersionLine name number (chomp line)) (hnumber : IsDigitRun number) :
    SetsVersion name number line :=
  ⟨hnumber, (exists_versionLine_iff hnumber).mpr h⟩

/-- The line says which number it is. -/
theorem IsVersionLine.unique {name number number' s : List Char}
    (h : IsVersionLine name number s) (h' : IsVersionLine name number' s) : number = number' := by
  obtain ⟨r, hs, hr⟩ := isVersionLine_iff.mp h
  obtain ⟨r', hs', hr'⟩ := isVersionLine_iff.mp h'
  rw [hs] at hs'
  rw [List.append_cancel_left hs', hr'] at hr
  exact (List.append_cancel_left hr).symm

/-- The line says which plugin it is for. -/
theorem IsVersionLine.name_unique {name name' number number' s : List Char}
    (h : IsVersionLine name number s) (h' : IsVersionLine name' number' s)
    (hnumber : IsDigitRun number) (hnumber' : IsDigitRun number') : name = name' := by
  obtain ⟨r, hs, hr⟩ := isVersionLine_iff.mp h
  obtain ⟨r', hs', hr'⟩ := isVersionLine_iff.mp h'
  rw [hs] at hs'
  rw [List.append_cancel_left hs', hr'] at hr
  have hend (t : List Char) : (t ++ " = ".toList).getLast? = some ' ' := by
    rw [List.getLast?_append]
    rfl
  obtain rfl := digits_eq_of_append_digits hnumber' hnumber (hend _) (hend _) hr
  have hnames := List.append_cancel_right (List.append_cancel_right hr)
  exact (List.append_cancel_left hnames).symm

theorem isDigitRun_of_digits {s : List Char} (hne : s ≠ []) (hs : ∀ c ∈ s, c.isDigit = true) :
    IsDigitRun s :=
  ⟨hne, fun c hc => isDecimalDigit_of_isDigit (hs c hc)⟩

theorem version?_of_setsVersion {name line : String} {number : List Char}
    (h : SetsVersion name.toList number line.toList) (hdigits : ∀ c ∈ number, c.isDigit = true)
    (hlimit : decimalValue number < 2 ^ 64) :
    version? name line = some (String.ofList (versionText (decimalValue number))) :=
  version?_eq_some_iff.mpr ⟨number, h.isVersionLine, h.digits.ne_nil, hdigits, hlimit, rfl⟩

theorem setsVersion_of_version? {name line v : String} (h : version? name line = some v) :
    ∃ number, SetsVersion name.toList number line.toList ∧ (∀ c ∈ number, c.isDigit = true) ∧
      decimalValue number < 2 ^ 64 ∧ v = String.ofList (versionText (decimalValue number)) := by
  obtain ⟨number, hline, hne, hdigits, hlimit, hv⟩ := version?_eq_some_iff.mp h
  exact ⟨number, hline.setsVersion (isDigitRun_of_digits hne hdigits), hdigits, hlimit, hv⟩

theorem setsVersion_repr (name : String) (raw : Nat) :
    SetsVersion name.toList (Nat.toDigits 10 raw)
      ("let g:loaded_" ++ name ++ " = " ++ Nat.repr raw).toList := by
  have hscope : "let g:loaded_".toList = "let ".toList ++ ("g:".toList ++ "loaded_".toList) := by
    decide
  refine ⟨isDigitRun_of_digits Nat.toDigits_ne_nil isDigit_of_mem_toDigits, _, [],
    ⟨"g:".toList, .inr rfl, rfl⟩, .inl rfl, ?_⟩
  rw [String.toList_append, String.toList_append, String.toList_append, toList_repr, hscope]
  simp only [List.append_assoc, List.append_nil]

/-- A number of a line that is not in ASCII digits, or has more than 64 bits, is no version. -/
theorem version?_eq_none {name line : String} {number : List Char}
    (h : SetsVersion name.toList number line.toList)
    (hbad : (∃ c ∈ number, c.isDigit = false) ∨ 2 ^ 64 ≤ decimalValue number) :
    version? name line = none := by
  cases hv : version? name line with
  | none => rfl
  | some v =>
    obtain ⟨number', hline, -, hdigits, hlimit, -⟩ := version?_eq_some_iff.mp hv
    obtain rfl := h.isVersionLine.unique hline
    rcases hbad with ⟨c, hc, hnot⟩ | hlarge
    · rw [hdigits c hc] at hnot
      cases hnot
    · exact absurd hlimit (Nat.not_lt.mpr hlarge)

/-- The reader takes the number of a line that sets the version, whatever characters the name has,
and loses no digit of it: a number of 64 bits is read back from its version, any other gives none. -/
theorem version_reads_grammar (name : String) :
    (∀ line v, version? name line = some v ↔
      ∃ number, SetsVersion name.toList number line.toList ∧ (∀ c ∈ number, c.isDigit = true) ∧
        decimalValue number < 2 ^ 64 ∧ v = String.ofList (versionText (decimalValue number))) ∧
    (∀ raw, decimalValue ((versionText raw).filter (· ≠ '.')) = raw) ∧
    Function.Injective versionText ∧
    (∀ raw, raw < 2 ^ 64 → version? name ("let g:loaded_" ++ name ++ " = " ++ Nat.repr raw) =
      some (String.ofList (versionText raw))) ∧
    ∀ line number, SetsVersion name.toList number line.toList →
      (∃ c ∈ number, c.isDigit = false) ∨ 2 ^ 64 ≤ decimalValue number →
      version? name line = none := by
  refine ⟨fun line v => ⟨setsVersion_of_version?, ?_⟩, decimalValue_versionText,
    versionText_injective, fun raw hraw => ?_, fun line number h hbad => version?_eq_none h hbad⟩
  · rintro ⟨number, h, hdigits, hlimit, rfl⟩
    exact version?_of_setsVersion h hdigits hlimit
  · have hvalue := decimalValue_toDigits raw
    have hread := version?_of_setsVersion (setsVersion_repr name raw) isDigit_of_mem_toDigits
      (by rwa [hvalue])
    rwa [hvalue] at hread

end PluginRelease.Marker
