import PluginRelease.Proofs.Yaml.Record

/-!
A document of one line: a key, its colon and one scalar. Behind the scalar stands nothing but
the end of the text, with or without a line break before it.
-/
namespace PluginRelease.Yaml
open Writer

/-- What may stand behind the last line. -/
def IsLineEnd (s : List Char) : Prop := s = [] ∨ s = ['\n']

/-- A key and what is written behind it. -/
def line (k written : List Char) : List Char := k ++ ':' :: ' ' :: written

namespace Scan

/-- What is written is a single scalar, the last of the text. -/
def ReadsAs (written : List Char) (style : ScalarStyle) (s : List Char) : Prop :=
  ∀ ts p, ∃ t, (afterColon ts written p).step = .ok t ∧ AtEnd t (ts ++ [.scalar style s])

theorem atEnd_atValue {after : List Char} (hafter : IsLineEnd after) (ts : List Token)
    (p : Place) : AtEnd (atValue ts after p) ts := by
  rcases hafter with rfl | rfl
  · exact ⟨p, false, rfl⟩
  · exact (ready_lineEnd startsLine_nil ts p).atEnd

/-- A word without quotes. -/
theorem readsAs_plain {c : Char} {cs after : List Char} (hc : isPrintable c = true)
    (hmark : ∀ rest, isMarkBefore c rest = false)
    (hword : ∀ d ∈ c :: cs, isBlankOrBreak d = false ∧ d ≠ ':') (hafter : IsLineEnd after) :
    ReadsAs (c :: cs ++ after) .plain (c :: cs) := by
  intro ts p
  have hb := (hword c List.mem_cons_self).1
  have hn : c ≠ '#' := by
    rintro rfl
    exact absurd (hmark []) (by decide)
  have hread : ∃ ends q, Plain.read false 1 [] .none (c :: cs ++ after) p.next =
      .ok ⟨c :: cs, ends, ⟨[], q⟩⟩ := by
    rw [Plain.read_run hword, List.append_nil]
    rcases hafter with rfl | rfl
    · exact ⟨false, _, by rw [Plain.read, List.reverse_reverse]; rfl⟩
    · exact ⟨true, _, by
        rw [Plain.read_line_end startsLine_nil (by decide), List.reverse_reverse]⟩
  obtain ⟨ends, q, hread⟩ := hread
  refine ⟨⟨⟨[], q⟩, ts ++ [.scalar .plain (c :: cs)], 0, [-1], none, [], ends⟩, ?_, q, _, rfl⟩
  have htoken : (atValue ts (c :: cs ++ after) p.next).readToken =
      (atValue ts (c :: cs ++ after) p.next).readPlain :=
    readToken_plain rfl rfl (fun h => absurd h (Nat.succ_ne_zero p.column)) (hmark _) hb
  have hplain : (atValue ts (c :: cs ++ after) p.next).readPlain =
      .ok ⟨⟨[], q⟩, ts ++ [.scalar .plain (c :: cs)], 0, [-1], none, [], ends⟩ :=
    @readPlain_eq _ (atValue ts (c :: cs ++ after) p.next) _ rfl rfl hread
  rw [List.cons_append, step_afterColon hc hb hn, ← List.cons_append, htoken, hplain]
  exact dropStale_of_fresh rfl (fun k hk => by cases hk)

/-- A word in single quotes. -/
theorem readsAs_single {s after : List Char} (hs : ∀ c ∈ s, isPrintable c = true ∧
      isBreak c = false ∧ isSpace c = false ∧ c ≠ '\'') (hafter : IsLineEnd after) :
    ReadsAs ('\'' :: (s ++ '\'' :: after)) .quoted s := by
  intro ts p
  have hhead : after.head? ≠ some '\'' := by
    rcases hafter with rfl | rfl <;> decide
  have hread : Quoted.read .single .text [] .none (s ++ '\'' :: after) p.next.next =
      .ok (s, ⟨after, (p.next.next.skip s.length).next⟩) := by
    have hsafe : Quoted.Safe .none (p.next.next.skip s.length) := fun h => by cases h
    have hclose := @Quoted.read_close .single s.reverse .none _ hsafe after hhead
    rw [Gap.folded, List.nil_append, List.reverse_reverse] at hclose
    rw [Quoted.read_word hs, List.append_nil]
    exact hclose
  exact ⟨_, step_quotes (.inl ⟨rfl, rfl⟩) hread, atEnd_atValue hafter _ _⟩

/-- The four steps of the line. -/
theorem run_line {k written s : List Char} {style : ScalarStyle} (hk : IsKey k)
    (hv : ReadsAs written style s) (fuel : Nat) :
    run (fuel + 4) (start (line k written)) =
      ([.blockMappingStart, .key, .scalar .plain k, .value, .scalar style s, .blockEnd,
        .streamEnd], none) := by
  have hready : Ready (start (line k written)) [] false (k ++ ':' :: ' ' :: written) :=
    ⟨Place.start, rfl, skipBlank_eq (skipToToken_line (hk.startsLine _) true Place.start)⟩
  obtain ⟨p, hp, hkey⟩ := step_key hready hk
  obtain ⟨q, -, hcolon⟩ := step_colon [] false written hp hk
  obtain ⟨t, hvalue, ht⟩ := hv ([] ++ opening false ++ [.key, .scalar .plain k, .value]) q
  have hlast : ([] : List Token) ++ opening false ++ [.key, .scalar .plain k, .value] =
      ([.blockMappingStart, .key, .scalar .plain k]) ++ [.value] := rfl
  rw [run_step hkey (isFinished_of_last rfl (by simp)),
    run_step hcolon (isFinished_of_last hlast (by simp)),
    run_step hvalue (isFinished_of_last ht.tokens (by simp)), run_end ht]
  rfl

end Scan

variable {k written s : List Char} {style : ScalarStyle}

theorem tokens_line (hk : Scan.IsKey k) (hallowed : ∀ c ∈ written, isAllowed c = true)
    (hv : Scan.ReadsAs written style s) :
    tokens (line k written) =
      ([.blockMappingStart, .key, .scalar .plain k, .value, .scalar style s, .blockEnd,
        .streamEnd], none) := by
  have hall : (line k written).all isAllowed = true := by
    rw [List.all_eq_true, line, List.forall_mem_append, List.forall_mem_cons,
      List.forall_mem_cons]
    exact ⟨fun c hc => isAllowed_of_isAlpha (hk.letters c hc), by decide, by decide, hallowed⟩
  have hmark : ((line k written).head? == some byteOrderMark) = false := by
    rw [beq_eq_false_iff_ne]
    intro h
    exact absurd (hk.startsLine _ byteOrderMark h) (by decide)
  have hlength : ∃ fuel, (line k written).length + 2 = fuel + 4 :=
    ⟨k.length + written.length, by simp [line]; omega⟩
  obtain ⟨fuel, hfuel⟩ := hlength
  rw [tokens, if_pos hall, hmark, if_neg (by decide), hfuel, Scan.run_line hk hv]

/-- The events of the line. -/
def lineEvents {ref : Type} (k : List Char) (style : ScalarStyle) (s : List Char) :
    List (Event ref) :=
  [.mappingStart ⟨none, none⟩, bareScalar .plain k, bareScalar style s, .mappingEnd]

theorem ofText_line (hk : Scan.IsKey k) (hallowed : ∀ c ∈ written, isAllowed c = true)
    (hv : Scan.ReadsAs written style s) :
    Document.ofText (line k written) = ⟨lineEvents k style s, none, false⟩ := by
  rw [Document.ofText, tokens_line hk hallowed hv]
  rfl

namespace Decode

/-- A record of one field, read from the line, is what the reader of the field makes of it. -/
theorem ofText_field {α : Type} {shape : Shape α} {d : Nat → String → Nat → α → Decoder α}
    {r : Except Fault α} (hk : Scan.IsKey k) (hallowed : ∀ c ∈ written, isAllowed c = true)
    (hv : Scan.ReadsAs written style s) (hfield : shape.field (String.ofList k) = some d)
    (hd : ∀ fuel depth l rest jumps, d (fuel + 1) (String.ofList k) depth shape.empty l
      ⟨bareScalar style s :: rest, jumps⟩ = r.map fun a => (a, ⟨rest, jumps⟩)) :
    ofText shape (String.ofList (line k written)) =
      (r.mapError (·.located "")).map some := by
  have hpath : entryPath "" (bareScalar .plain k) = String.ofList k := by
    simp [entryPath, bareScalar, keyPath]
  have hentries (fuel : Nat) (l : Linked) : recordEntries shape (fuel + 2) "" (depthLimit - 1) []
      shape.empty l ⟨[bareScalar .plain k, bareScalar style s, .mappingEnd], 0⟩ =
        r.map fun a => (a, ⟨[], 0⟩) := by
    rw [recordEntries_key hfield (by simp), hpath, Decoder.bind, hd]
    cases r with
    | error f => rfl
    | ok a => rfl
  rw [ofText, String.toList_ofList, ofText_line hk hallowed hv]
  exact ofDocument_mapping rfl (hentries 908 _)

end Decode
end PluginRelease.Yaml
