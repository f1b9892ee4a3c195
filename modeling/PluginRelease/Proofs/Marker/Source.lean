import PluginRelease.Proofs.Marker.ScriptId
import PluginRelease.Proofs.Marker.Version
import PluginRelease.Proofs.Text.ByteLines

/-!
The lines of a source file. Each is decoded by itself, so bytes that are no text spoil the line
they are on and no other, and a marker is read alike whatever ends its line.
-/
namespace PluginRelease.Marker
open Text

/-- The lines of the bytes of a file, each decoded by itself. -/
def decodedLines (content : Bytes) : List String :=
  (Utf8.byteLines content).map fun l => String.ofList (Utf8.decodeLossy l)

theorem decodedLines_eq (content : Bytes) :
    decodedLines content = (lines (Utf8.decodeLossy content)).map String.ofList := by
  rw [lines_decodeLossy, List.map_map]
  rfl

theorem sourceLines_eq_decodedLines {w : Workspace} {p : Path} {content : Bytes}
    (h : w.read p = .ok content) : sourceLines w p = .ok (decodedLines content) := by
  rw [decodedLines_eq]
  unfold sourceLines
  rw [h]
  rfl

/-- A line that stands by itself among bytes is one of their lines, and leaves the others. -/
theorem decodedLines_append {before after : Bytes} {line e : List Char}
    (hbefore : IsWholeByteLines before) (hnewline : '\n' ∉ line)
    (hreturn : line.getLast? ≠ some '\r') (he : IsLineEnd e)
    (hopen : e = [] → line ≠ [] ∧ after = []) :
    decodedLines (before ++ (Utf8.encode (line ++ e) ++ after)) =
      decodedLines before ++ String.ofList line :: decodedLines after := by
  have hafter : e = [] → line ≠ [] ∧ Utf8.decodeLossy after = [] := by
    intro hnone
    obtain ⟨hne, rfl⟩ := hopen hnone
    exact ⟨hne, Utf8.decodeLossy_nil⟩
  rw [decodedLines_eq, decodedLines_eq, decodedLines_eq, hbefore.decodeLossy_append,
    Utf8.decodeLossy_encode_append, lines_append hbefore.decodeLossy,
    lines_append_lineEnd hnewline hreturn he _ hafter, List.map_append, List.map_cons]

/-- What is accepted is neither empty nor ended by half a line end. -/
theorem line_of_accepted {name line : String} (hnewline : '\n' ∉ line.toList)
    (h : (scriptId? name line).isSome ∨ (version? name line).isSome) :
    line.toList ≠ [] ∧ line.toList.getLast? ≠ some '\r' := by
  have hself := chomp_of_not_mem hnewline
  have hlast : line.toList ≠ [] ∧ ∀ c ∈ line.toList.getLast?, c ≠ '\n' ∧ c ≠ '\r' := by
    rcases h with h | h
    · obtain ⟨id, hid⟩ := Option.isSome_iff_exists.mp h
      obtain ⟨hline, -⟩ := scriptId?_eq_some_iff.mp hid
      rw [hself] at hline
      refine ⟨?_, hline.getLast?_ne⟩
      obtain ⟨_, _, _, -, -, -, hs⟩ := hline
      rw [hs]
      simp
    · obtain ⟨v, hv⟩ := Option.isSome_iff_exists.mp h
      obtain ⟨number, hset, -⟩ := setsVersion_of_version? hv
      have hline := hset.isVersionLine
      rw [hself] at hline
      refine ⟨?_, hline.getLast?_ne hset.digits⟩
      obtain ⟨_, -, hs⟩ := hline
      rw [hs]
      simp
  exact ⟨hlast.1, fun hreturn => (hlast.2 _ hreturn).2 rfl⟩

/-- Both readers look at a line without its end. -/
theorem readers_append_lineEnd {name line e : String}
    (hlast : ∀ c ∈ line.toList.getLast?, c ≠ '\n' ∧ c ≠ '\r') (he : IsLineEnd e.toList) :
    scriptId? name (line ++ e) = scriptId? name line ∧
      version? name (line ++ e) = version? name line := by
  have hself : chomp line.toList = line.toList := by
    have hnone := chomp_append hlast (.inl rfl)
    rwa [List.append_nil] at hnone
  have hchomp : chomp (line ++ e).toList = chomp line.toList := by
    rw [String.toList_append, chomp_append hlast he, hself]
  unfold scriptId? version?
  rw [hchomp]
  exact ⟨rfl, rfl⟩

/-- Broken bytes are local to their line. What is searched of a file are the lines of its bytes,
each decoded by itself; a line of text that stands between any bytes is one of them and is as it
was written, which goes for every line that is accepted; and an end of the line, or none, makes no
difference to what is read from it. -/
theorem broken_bytes_stay_on_their_line :
    (∀ (w : Workspace) (p : Path) (content : Bytes), w.read p = .ok content →
      sourceLines w p = .ok (decodedLines content)) ∧
    (∀ (before after : Bytes) (line e : List Char), IsWholeByteLines before → '\n' ∉ line →
      line.getLast? ≠ some '\r' → IsLineEnd e → (e = [] → line ≠ [] ∧ after = []) →
        decodedLines (before ++ (Utf8.encode (line ++ e) ++ after)) =
          decodedLines before ++ String.ofList line :: decodedLines after) ∧
    (∀ name line : String, '\n' ∉ line.toList →
      (scriptId? name line).isSome ∨ (version? name line).isSome →
        line.toList ≠ [] ∧ line.toList.getLast? ≠ some '\r') ∧
    ∀ name line e : String, (∀ c ∈ line.toList.getLast?, c ≠ '\n' ∧ c ≠ '\r') →
      IsLineEnd e.toList → scriptId? name (line ++ e) = scriptId? name line ∧
        version? name (line ++ e) = version? name line := by
  refine ⟨?_, ?_, ?_, ?_⟩
  · exact fun w p content hread => sourceLines_eq_decodedLines hread
  · intro before after line e hbefore hnewline hreturn he hopen
    exact decodedLines_append hbefore hnewline hreturn he hopen
  · exact fun name line hnewline haccepted => line_of_accepted hnewline haccepted
  · exact fun name line e hlast he => readers_append_lineEnd hlast he

/-- A version between the start of a character that breaks off at the end of its line and a
surrogate. -/
theorem broken_bytes_stay_on_their_line_of_version :
    let before : Bytes := [0x22, 0xE2, 0x82, 0x0A]
    let after : Bytes := [0xED, 0xA0, 0x80, 0xC3]
    let line := "let g:loaded_a = 105"
    let w : Workspace := ⟨[([Utf8.ofText "a.vim"],
      .file (before ++ (Utf8.encode (line.toList ++ ['\r', '\n']) ++ after)))], []⟩
    sourceLines w "a.vim" = .ok (decodedLines before ++ line :: decodedLines after) ∧
      version? "a" (line ++ "\r\n") = some "1.05" := by
  intro before after line w
  obtain ⟨hlines, halone, -, hend⟩ := broken_bytes_stay_on_their_line
  have hbefore : IsWholeByteLines before := fun b hb => (Option.some.inj hb).symm
  have hsplit := halone before after line.toList ['\r', '\n'] hbefore (by decide) (by decide)
    (.inr (.inr rfl)) (fun h => nomatch h)
  have hread := hlines w "a.vim" _ rfl
  rw [hsplit, String.ofList_toList] at hread
  have hlast : ∀ c ∈ line.toList.getLast?, c ≠ '\n' ∧ c ≠ '\r' := by
    rw [show line.toList.getLast? = some '5' by decide]
    rintro c ⟨⟩
    decide
  obtain ⟨-, hversion⟩ := hend "a" line "\r\n" hlast (.inr (.inr (by decide)))
  rw [hversion]
  exact ⟨hread, by decide⟩

end PluginRelease.Marker
