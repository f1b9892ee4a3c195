import PluginRelease.Proofs.Descriptor.RoundTrip
import PluginRelease.Proofs.Yaml.Line
import PluginRelease.Proofs.Yaml.Numeral

/-!
Numbers without quotes in a descriptor. A field takes one only where it is sure of its digits,
and refuses it otherwise.
-/
namespace PluginRelease.Descriptor
open Yaml Yaml.Meaning

/-! ## The reader of a field -/

section Reader
variable {fuel depth : Nat} {path : String} {l : Linked} {rest : List (Event Nat)} {jumps : Nat}
  {style : ScalarStyle} {s : List Char}

theorem scalarField_of_text (h : style = .plain → ofPlain s = text) :
    scalarField (fuel + 1) path depth l ⟨bareScalar style s :: rest, jumps⟩ =
      .ok (some (String.ofList s), ⟨rest, jumps⟩) := by
  have hstyle : (if style = .plain then ofPlain s else text) = text := by
    by_cases hplain : style = .plain
    · rw [if_pos hplain, h hplain]
    · rw [if_neg hplain]
  have hvalue : Decode.scalarValue false ⟨none, none⟩ style s =
      .ok (.text (String.ofList s)) := by
    simp only [Decode.scalarValue, Decode.meaning, hstyle]
  simp only [scalarField, bind, Decode.Decoder.bind, Decode.value_bare, hvalue]
  rfl

theorem scalarField_of_kept (hne : s ≠ []) (hs : ∀ c ∈ s, isNumeric c = true)
    (h : ¬ IsUnkept s) :
    scalarField (fuel + 1) path depth l ⟨bareScalar .plain s :: rest, jumps⟩ =
      .ok (some (String.ofList s), ⟨rest, jumps⟩) := by
  rcases ofPlain_of_kept hne hs h with htext | ⟨n, rfl, hinteger⟩
  · exact scalarField_of_text fun _ => htext
  · have hvalue : Decode.scalarValue false ⟨none, none⟩ .plain (Nat.toDigits 10 n) =
        .ok (.number (.integer n)) := by
      simp only [Decode.scalarValue, Decode.meaning, if_true, hinteger]
    have hnumeral : toString (n : Int) = String.ofList (Nat.toDigits 10 n) :=
      Nat.toString_eq_ofList_toDigits
    simp only [scalarField, bind, Decode.Decoder.bind, Decode.value_bare, hvalue]
    rw [← hnumeral]
    rfl

/-- The fault is that of the scalar, wherever it stands. -/
theorem scalarField_of_unkept (h : IsUnkept s) (path : String) :
    ∃ f, ∀ fuel depth l rest jumps, scalarField (fuel + 1) path depth l
      ⟨bareScalar .plain s :: rest, jumps⟩ = .error f := by
  rcases ofPlain_of_unkept h with ⟨n, hwide⟩ | ⟨x, hfloat⟩
  · have hvalue : Decode.scalarValue false ⟨none, none⟩ .plain s =
        .error (Decode.invalidType (Decode.wideName n) "any YAML value") := by
      simp only [Decode.scalarValue, Decode.meaning, if_true, hwide]
    exact ⟨_, fun fuel depth l rest jumps => by
      simp only [scalarField, bind, Decode.Decoder.bind, Decode.value_bare, hvalue]
      rfl⟩
  · have hvalue : Decode.scalarValue false ⟨none, none⟩ .plain s =
        .ok (.number (.float x)) := by
      simp only [Decode.scalarValue, Decode.meaning, if_true, hfloat]
    exact ⟨_, fun fuel depth l rest jumps => by
      simp only [scalarField, bind, Decode.Decoder.bind, Decode.value_bare, hvalue]
      rfl⟩

end Reader

/-! ## Descriptors of one line -/

variable {f : Field} {written s : List Char} {style : ScalarStyle}

theorem decode_line {result : Except Fault (Option String)}
    (hallowed : ∀ c ∈ written, isAllowed c = true) (hv : Scan.ReadsAs written style s)
    (hread : ∀ fuel depth l rest jumps, scalarField (fuel + 1) f.name depth l
      ⟨bareScalar style s :: rest, jumps⟩ = result.map fun v => (v, ⟨rest, jumps⟩)) :
    decode (String.ofList (line f.name.toList written)) =
      (result.mapError (·.located "")).map (empty.set f) := by
  have hblank : Text.isBlankText (line f.name.toList written) = false := by
    cases f <;> rfl
  have hfield : shape.field (String.ofList f.name.toList) =
      some (fun fuel path depth d => do pure (d.set f (← scalarField fuel path depth))) := by
    simp [shape]
  have hset := Decode.ofText_field (r := result.map (empty.set f)) (isKey_name f) hallowed hv
    hfield (fun fuel depth l rest jumps => by
      simp only [bind, Decode.Decoder.bind, String.ofList_toList, hread]
      cases result <;> rfl)
  rw [decode, String.toList_ofList, hblank, if_neg (by decide), hset]
  cases result <;> rfl

/-! ## Digits and points -/

theorem isNumeric_cases {q : Char → Prop} (hdigits : ∀ d < 10, q (Nat.digitChar d))
    (hpoint : q '.') {c : Char} (h : isNumeric c = true) : q c := by
  rcases Bool.or_eq_true_iff.mp h with hdigit | hc
  · rw [← Text.digitChar_digitValue hdigit]
    exact hdigits _ (Text.digitValue_lt hdigit)
  · rwa [beq_iff_eq.mp hc]

theorem isMarkBefore_of_isNumeric {c : Char} (h : isNumeric c = true) (rest : List Char) :
    Scan.isMarkBefore c rest = false := by
  have hc : Writer.isStartIndicator c = false ∧ (c == '?' || c == ':' || c == '-') = false :=
    isNumeric_cases (q := fun c => Writer.isStartIndicator c = false ∧
      (c == '?' || c == ':' || c == '-') = false) (by decide) (by decide) h
  rw [Scan.isMarkBefore, hc.1, hc.2]
  rfl

theorem readsAs_unquoted {s after : List Char} (hne : s ≠ []) (hs : ∀ c ∈ s, isNumeric c = true)
    (hafter : IsLineEnd after) : Scan.ReadsAs (s ++ after) .plain s := by
  obtain ⟨c, cs, rfl⟩ := List.exists_cons_of_ne_nil hne
  have hc := hs c List.mem_cons_self
  have hprintable : Writer.isPrintable c = true :=
    isNumeric_cases (q := fun c => Writer.isPrintable c = true) (by decide) (by decide) hc
  exact Scan.readsAs_plain hprintable (isMarkBefore_of_isNumeric hc) (fun d hd =>
    isNumeric_cases (q := fun d => isBlankOrBreak d = false ∧ d ≠ ':') (by decide) (by decide)
      (hs d hd)) hafter

theorem readsAs_quoted {s after : List Char} (hs : ∀ c ∈ s, isNumeric c = true)
    (hafter : IsLineEnd after) : Scan.ReadsAs ('\'' :: (s ++ '\'' :: after)) .quoted s :=
  Scan.readsAs_single (fun d hd => isNumeric_cases (q := fun d => Writer.isPrintable d = true ∧
    isBreak d = false ∧ isSpace d = false ∧ d ≠ '\'') (by decide) (by decide) (hs d hd)) hafter

theorem isAllowed_lineEnd {after : List Char} (hafter : IsLineEnd after) :
    ∀ c ∈ after, isAllowed c = true := by
  rcases hafter with rfl | rfl
  · exact List.forall_mem_nil _
  · exact List.forall_mem_singleton.mpr rfl

theorem isAllowed_numeric {s : List Char} (hs : ∀ c ∈ s, isNumeric c = true) :
    ∀ c ∈ s, isAllowed c = true :=
  fun c hc =>
    isNumeric_cases (q := fun c => isAllowed c = true) (by decide) (by decide) (hs c hc)

/-- A number in a document of its own. In quotes it is the value of its field. Without them it
either has this value too, or is refused as one whose digits would be lost; it never has
another. -/
theorem ofYaml_unquoted_number (f : Field) {s after : String} (hne : s ≠ "")
    (hs : ∀ c ∈ s.toList, isNumeric c = true) (hafter : IsLineEnd after.toList) :
    ofYaml (f.name ++ ": '" ++ s ++ "'" ++ after) = .ok (empty.set f (some s)) ∧
      (¬ IsUnkept s.toList ∧ ofYaml (f.name ++ ": " ++ s ++ after) = .ok (empty.set f (some s)) ∨
        IsUnkept s.toList ∧ ∃ failure, ofYaml (f.name ++ ": " ++ s ++ after) = .error failure) := by
  have hnil : s.toList ≠ [] := mt String.toList_eq_nil_iff.mp hne
  have hend := isAllowed_lineEnd hafter
  have hallowed := isAllowed_numeric hs
  have hplain : f.name ++ ": " ++ s ++ after =
      String.ofList (line f.name.toList (s.toList ++ after.toList)) := by
    simp [line, String.append_assoc, ← String.toList_inj]
  have hquoted : f.name ++ ": '" ++ s ++ "'" ++ after =
      String.ofList (line f.name.toList ('\'' :: (s.toList ++ '\'' :: after.toList))) := by
    simp [line, String.append_assoc, ← String.toList_inj]
  constructor
  · have hdecode := @decode_line f _ s.toList .quoted (.ok (some s)) (by
      rw [List.forall_mem_cons, List.forall_mem_append, List.forall_mem_cons]
      exact ⟨by decide, hallowed, by decide, hend⟩) (readsAs_quoted hs hafter)
      (fun fuel depth l rest jumps => by
        rw [scalarField_of_text (fun h => by cases h), String.ofList_toList]
        rfl)
    rw [ofYaml, hquoted, hdecode]
    rfl
  · have hline : ∀ c ∈ s.toList ++ after.toList, isAllowed c = true := by
      rw [List.forall_mem_append]
      exact ⟨hallowed, hend⟩
    by_cases hunkept : IsUnkept s.toList
    · obtain ⟨fault, hfault⟩ := scalarField_of_unkept hunkept f.name
      have hdecode := @decode_line f _ s.toList .plain (.error fault) hline
        (readsAs_unquoted hnil hs hafter) (fun fuel depth l rest jumps => hfault ..)
      exact .inr ⟨hunkept, _, by rw [ofYaml, hplain, hdecode]; rfl⟩
    · have hdecode := @decode_line f _ s.toList .plain (.ok (some s)) hline
        (readsAs_unquoted hnil hs hafter) (fun fuel depth l rest jumps => by
          rw [scalarField_of_kept hnil hs hunkept, String.ofList_toList]
          rfl)
      exact .inl ⟨hunkept, by rw [ofYaml, hplain, hdecode]; rfl⟩

theorem ofYaml_unquoted_number_of_version :
    ("1.10" ≠ "" ∧ (∀ c ∈ "1.10".toList, isNumeric c = true) ∧ IsLineEnd "\n".toList) ∧
      ofYaml "version: '1.10'\n" = .ok ⟨none, some "1.10", none, none⟩ ∧
        ∃ failure, ofYaml "version: 1.10\n" = .error failure := by
  have hs : ∀ c ∈ "1.10".toList, isNumeric c = true := List.all_eq_true.mp (by decide)
  have hunkept : IsUnkept "1.10".toList := by
    have hsmall : (Text.decimalValue ['1'] + Text.decimalValue ['1', '0'] / 10 ^ 2 : ℚ) <
        2 ^ 128 := by
      have hwhole : Text.decimalValue ['1'] = 1 := by decide
      have hpart : Text.decimalValue ['1', '0'] = 10 := by decide
      norm_num [hwhole, hpart]
    have hfinite := hsmall.trans_le two_pow_le_overflow
    exact @IsUnkept.decimal ['1'] ['1', '0'] (List.all_eq_true.mp (by decide))
      (List.all_eq_true.mp (by decide)) (by decide) hfinite
  obtain ⟨hquoted, hplain⟩ :=
    @ofYaml_unquoted_number .version "1.10" "\n" (by decide) hs (.inr rfl)
  refine ⟨⟨by decide, hs, .inr rfl⟩, hquoted, ?_⟩
  rcases hplain with ⟨hkept, -⟩ | ⟨-, hrefused⟩
  · exact absurd hunkept hkept
  · exact hrefused

end PluginRelease.Descriptor
