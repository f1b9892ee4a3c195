import PluginRelease.Proofs.Build.Continuity
import PluginRelease.Proofs.Build.Source
import PluginRelease.Proofs.Descriptor.Number
import PluginRelease.Proofs.Workspace.Path

/-!
Where the ID of a built descriptor comes from, and when it has a number. An ID that was saved
is kept as it is, and otherwise it is found in a source line, where zeros alone do not count.
-/
namespace PluginRelease

namespace Descriptor

theorem mergeScriptId_of_none {d e : Descriptor} {found : Option String} (hd : d.id = none)
    (h : d.mergeScriptId found = .ok e) : e.id = found := by
  unfold mergeScriptId at h
  split at h
  · obtain rfl := Except.ok.inj h
    exact hd
  · rw [hd] at h
    obtain rfl := Except.ok.inj h
    rfl

/-- The number that a scanned ID denotes is not zero. -/
theorem Denotes.pos_of_scriptId? {name line id : String} {n : Nat} (hn : Denotes id n)
    (h : Marker.scriptId? name line = some id) : 0 < n := by
  obtain ⟨hdecimal, hcounts⟩ := Marker.digits_of_scriptId? h
  have hself : Text.trim id.toList = id.toList :=
    Text.trim_eq_self fun c hc => Text.isBlank_of_isDecimalDigit (hdecimal c hc)
  have hvalue := hn.decimalValue_eq
  obtain ⟨k, hk⟩ := hn
  rw [hself] at hk hvalue
  rw [← hvalue]
  apply Marker.decimalValue_pos hcounts
  intro c hc
  rw [hk] at hc
  exact Text.isDigit_of_mem_numeral hc

end Descriptor

namespace Builder
variable {b : Builder} {w : Workspace} {d : Descriptor}

/-- The output file holds a descriptor with this ID. -/
def Records (b : Builder) (w : Workspace) (id : String) : Prop :=
  ∃ saved, b.savedDescriptor w = .ok (some saved) ∧ saved.id = some id

/-- A line of a source file gives this ID. -/
def Scans (b : Builder) (w : Workspace) (id : String) : Prop :=
  ∃ p ∈ b.sourceFiles, ∃ ls, Marker.sourceLines w p = .ok ls ∧
    ∃ line ∈ ls, Marker.scriptId? b.name line = some id

/-- A built descriptor has the ID that was saved, or else one that is scanned. -/
theorem id_of_build (hbuild : b.build w = .ok d) : ∃ id, d.id = some id ∧
    (b.Records w id ∨ (∀ i, ¬ b.Records w i) ∧ b.Scans w id) := by
  have hbuilt := built_of_build hbuild
  obtain ⟨saved, found, merged, _, _, _, hsaved, hfound, hmerged, -, -, -, hd⟩ := hbuilt.steps
  have hcomplete := Descriptor.ensureComplete_eq_ok_iff.mp hbuilt.complete
  obtain ⟨id, hid, -⟩ := Descriptor.exists_get_of_isComplete hcomplete .id
  have hkept : merged.id = some id := by
    rw [← hid, hd]
    rfl
  refine ⟨id, hid, ?_⟩
  cases hrecord : (saved.getD .empty).id with
  | some i =>
    left
    have hsame := Descriptor.mergeScriptId_of_id hrecord hmerged
    cases saved with
    | none => cases hrecord
    | some s => exact ⟨s, hsaved, hrecord.trans (hsame.symm.trans hkept)⟩
  | none =>
    right
    constructor
    · rintro i ⟨s, hs, hi⟩
      rw [hsaved] at hs
      obtain rfl := Except.ok.inj hs
      rw [Option.getD_some, hi] at hrecord
      cases hrecord
    · have hscanned := Descriptor.mergeScriptId_of_none hrecord hmerged
      rw [← hscanned, hkept] at hfound
      exact Marker.exists_of_findFirst hfound

/-- The number of a built descriptor. Its ID is the one that was saved, as it was, or else one
from a source line. It has the number that this ID denotes if that has no more than 64 bits and
is not zero, which no scanned ID is; and every scanned ID of plain digits denotes a number. -/
theorem numericId?_of_build (hbuild : b.build w = .ok d) :
    (∃ id, d.id = some id ∧
      (b.Records w id ∨ (∀ i, ¬ b.Records w i) ∧ b.Scans w id) ∧
      ∀ n, Descriptor.Denotes id n → n < Nat.pow 2 64 → 0 < n ∨ b.Scans w id →
        d.numericId? = some n) ∧
    ∀ name line id, Marker.scriptId? name line = some id → (∀ c ∈ id.toList, c.isDigit = true) →
      ∃ n, Descriptor.Denotes id n ∧ 0 < n ∧
        (n < Nat.pow 2 64 → ∀ e : Descriptor, e.id = some id → e.numericId? = some n) := by
  constructor
  · obtain ⟨id, hid, hsource⟩ := id_of_build hbuild
    refine ⟨id, hid, hsource, ?_⟩
    intro n hn hlimit hpos
    rw [Descriptor.numericId?_eq_some_iff hid]
    rcases hpos with hpos | ⟨_, _, _, _, line, _, hline⟩
    · exact ⟨hn, hpos, hlimit⟩
    · exact ⟨hn, hn.pos_of_scriptId? hline, hlimit⟩
  · intro name line id hline hdigits
    obtain ⟨-, hcounts⟩ := Marker.digits_of_scriptId? hline
    have hn := Descriptor.denotes_of_digits (Marker.ne_nil_of_countsAsId hcounts) hdigits
    have hpos := Marker.decimalValue_pos hcounts hdigits
    refine ⟨_, hn, hpos, ?_⟩
    intro hlimit e he
    rw [Descriptor.numericId?_eq_some_iff he]
    exact ⟨hn, hpos, hlimit⟩

/-- An ID with a zero before it, from a source line. -/
theorem numericId?_of_build_of_new_plugin :
    let source := "\" GetLatestVimScripts: 011 1 a.vim\nlet g:loaded_a = 105\n".toList
    let w : Workspace := ⟨[([Utf8.ofText "a.vim"], .file (Utf8.encode source)),
      ([Utf8.ofText "a.vba"], .file [0x61])], []⟩
    let b : Builder :=
      ⟨{ BuildConfig.default with archive := some "a.vba", files := ["a.vim"] }, "a", none⟩
    ∃ d, b.build w = .ok d ∧ d.id = some "011" ∧ d.numericId? = some 11 := by
  intro source w b
  have hp : b.config.resolve "a.vim" = "./a.vim" := by decide
  have hq : b.config.resolve "a.vba" = "./a.vba" := by decide
  have hfound : ((Text.lines source).map String.ofList).findSome? (Marker.scriptId? b.name) =
      some "011" := by decide
  have hversion : ((Text.lines source).map String.ofList).findSome? (Marker.version? b.name) =
      some "1.05" := by decide
  have hsaved : b.savedDescriptor w = .ok none := rfl
  have hbuild := build_of_new_source rfl rfl (Path.text_ofText _) rfl (by decide) hfound hversion
    hp rfl hq rfl hsaved (by decide)
  obtain ⟨⟨id, hid, -, hnumber⟩, -⟩ := numericId?_of_build hbuild
  obtain rfl := Option.some.inj hid
  have hdenotes : Descriptor.Denotes "011" 11 := ⟨1, by decide⟩
  exact ⟨_, hbuild, rfl, hnumber 11 hdenotes (by decide) (.inl (by decide))⟩

/-- A saved ID is kept also if it has no number, and a line may give one of more than 64 bits or
with digits of another script. -/
theorem numericId?_of_build_of_saved_name :
    let saved : Descriptor := ⟨some "abc", none, none, none⟩
    let source := "let g:loaded_a = 105\n".toList
    let w : Workspace := ⟨[([Utf8.ofText "a.vim"], .file (Utf8.encode source)),
      ([Utf8.ofText "a.yml"], .file (Utf8.encode saved.toYaml.toList)),
      ([Utf8.ofText "a.vba"], .file [0x61])], []⟩
    let b : Builder := ⟨{ BuildConfig.default with
      archive := some "a.vba", outfile := some "a.yml", files := ["a.vim"] }, "a", none⟩
    (∃ d, b.build w = .ok d ∧ d.id = some "abc" ∧ d.numericId? = none) ∧
      ∀ id ∈ ["18446744073709551616", "1٣"],
        Marker.scriptId? "a" ("\" GetLatestVimScripts: " ++ id ++ " 1 a.vim") = some id ∧
          Descriptor.numericId? ⟨some id, none, none, none⟩ = none := by
  intro saved source w b
  have hp : b.config.resolve "a.vim" = "./a.vim" := by decide
  have hq : b.config.resolve "a.vba" = "./a.vba" := by decide
  have hfound : ((Text.lines source).map String.ofList).findSome? (Marker.scriptId? b.name) =
      none := by decide
  have hversion : ((Text.lines source).map String.ofList).findSome? (Marker.version? b.name) =
      some "1.05" := by decide
  have hout : b.config.outputPath = some ("./a.yml" : Path) := by decide
  have hl : w.locate "./a.yml" = .ok [Utf8.ofText "a.yml"] := rfl
  have hsaved : b.savedDescriptor w = .ok (some saved) :=
    savedDescriptor_of_load hout rfl (Descriptor.load_of_page hl rfl)
  have hmerged : saved.mergeScriptId none = .ok saved := rfl
  have hbuild := build_of_source rfl rfl (Path.text_ofText _) rfl (by decide) hfound hversion
    hp rfl hq rfl hsaved hmerged (by decide)
  constructor
  · exact ⟨_, hbuild, rfl, rfl⟩
  · decide

end Builder
end PluginRelease
