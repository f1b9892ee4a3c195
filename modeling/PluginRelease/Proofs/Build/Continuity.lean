import PluginRelease.Proofs.Build.Run
import PluginRelease.Proofs.Descriptor.RoundTrip

/-!
The ID that an output file records stays the same for as long as only builders write to that
file, whatever else changes around it.
-/
namespace PluginRelease

namespace Workspace

/-- The ID in the descriptor at a place, if there is one. -/
def recordedId? (w : Workspace) (l : Location) : Option String :=
  match w.find? l with
  | some (.file content) =>
    match Utf8.decode? content with
    | some s =>
      match Descriptor.ofYaml (String.ofList s) with
      | .ok d => d.id
      | .error _ => none
    | none => none
  | _ => none

variable {w t : Workspace} {l : Location} {i : String} {p : Path}

theorem recordedId?_congr (h : t.find? l = w.find? l) : t.recordedId? l = w.recordedId? l := by
  unfold recordedId?
  rw [h]

theorem recordedId?_of_page {d : Descriptor}
    (h : t.find? l = some (.file (Utf8.encode d.toYaml.toList))) : t.recordedId? l = d.id := by
  have hread : Descriptor.ofYaml d.toYaml = .ok d := by
    rw [Descriptor.ofYaml, Descriptor.decode_toYaml]
  unfold recordedId?
  simp only [h, Utf8.decode?_encode, String.ofList_toList, hread]

theorem exists_of_recordedId? (h : w.recordedId? l = some i) :
    ∃ content s d, w.find? l = some (.file content) ∧ Utf8.decode? content = some s ∧
      Descriptor.ofYaml (String.ofList s) = .ok d ∧ d.id = some i := by
  unfold recordedId? at h
  split at h
  · next content hfind =>
    split at h
    · next s hdecode =>
      split at h
      · next d hyaml => exact ⟨content, s, d, hfind, hdecode, hyaml, h⟩
      · cases h
    · cases h
  · cases h

/-- A path to the place leads to a file that loads. -/
theorem load_of_recordedId? (hl : w.locate p = .ok l) (hi : w.recordedId? l = some i) :
    w.isFile p = true ∧ ∃ d, Descriptor.load w p = .ok d ∧ d.id = some i := by
  obtain ⟨content, s, d, hfind, hdecode, hyaml, hd⟩ := exists_of_recordedId? hi
  exact ⟨isFile_of_find? hl hfind, d, Descriptor.load_of_find? hl hfind hdecode hyaml, hd⟩

end Workspace

namespace Descriptor

theorem mergeScriptId_of_id {d e : Descriptor} {i : String} (hd : d.id = some i)
    {found : Option String} (h : d.mergeScriptId found = .ok e) : e.id = some i := by
  unfold mergeScriptId at h
  split at h
  · cases h
    exact hd
  · rw [hd] at h
    dsimp only at h
    split at h
    · cases h
      exact hd
    · cases h

theorem mergeScriptId_of_ne {d : Descriptor} {i j : String} (hd : d.id = some i) (hj : j ≠ i) :
    d.mergeScriptId (some j) = .error (.extract (.scriptIdMismatch i j)) := by
  unfold mergeScriptId
  simp only [hd, if_neg hj]

end Descriptor

namespace Builder
variable {b : Builder} {w t : Workspace} {l : Location} {i j : String} {p : Path}

theorem savedDescriptor_of_recordedId? (hp : b.config.outputPath = some p)
    (hl : w.locate p = .ok l) (hi : w.recordedId? l = some i) :
    ∃ d, b.savedDescriptor w = .ok (some d) ∧ d.id = some i := by
  obtain ⟨hfile, d, hload, hd⟩ := Workspace.load_of_recordedId? hl hi
  exact ⟨d, savedDescriptor_of_load hp hfile hload, hd⟩

/-- What is built keeps the ID that was saved. -/
theorem build_id (hp : b.config.outputPath = some p) (hl : w.locate p = .ok l)
    (hi : w.recordedId? l = some i) {d : Descriptor} (hbuild : b.build w = .ok d) :
    d.id = some i := by
  obtain ⟨saved, hsaved, hid⟩ := savedDescriptor_of_recordedId? hp hl hi
  obtain ⟨found, _, merged, _, _, _, hfound, -, hmerged, -, -, -, rfl⟩ :=
    (built_of_build hbuild).steps
  obtain rfl : some saved = found := Except.ok.inj (hsaved.symm.trans hfound)
  have hkept : merged.id = some i := Descriptor.mergeScriptId_of_id hid hmerged
  exact hkept

/-- Another ID in the sources stops the build. -/
theorem build_of_ne (hp : b.config.outputPath = some p) (hl : w.locate p = .ok l)
    (hi : w.recordedId? l = some i)
    (hj : Marker.findScriptId w b.name b.sourceFiles = .ok (some j)) (hne : j ≠ i) :
    b.build w = .error (.extract (.scriptIdMismatch i j)) := by
  obtain ⟨saved, hsaved, hid⟩ := savedDescriptor_of_recordedId? hp hl hi
  unfold build scan
  rw [hsaved, hj]
  simp only [bind, Except.bind, pure, Except.pure, Option.getD,
    Descriptor.mergeScriptId_of_ne hid hne]

/-- A run whose output path leads to the place, if it leads anywhere, keeps the recorded ID. -/
theorem recordedId?_run (hout : ∀ p k, b.config.outputPath = some p → w.locate p = .ok k → k = l)
    (hi : w.recordedId? l = some i) (command : BuildCommand) :
    (b.run w command).workspace.recordedId? l = some i := by
  have heffect := b.run_effect w command
  generalize b.run w command = outcome at heffect
  cases heffect with
  | failed command f logs => exact hi
  | printed hcommand output logs => exact hi
  | shown hbuild hpath logs => exact hi
  | @saved d p t hbuild hpath hwrite logs =>
    obtain ⟨k, hlocate, hfree, rfl⟩ := Workspace.write_eq hwrite
    obtain rfl := hout p k hpath hlocate
    rw [Workspace.recordedId?_of_page (Workspace.find?_insert_self w _ hfree.ne_nil)]
    exact build_id hpath hlocate hi hbuild

end Builder

/-- What may become of a workspace while only builders write to one place: any command of any
builder whose output path leads there, and any change that leaves the place alone. -/
inductive Evolves (l : Location) (w : Workspace) : Workspace → Prop
  | start : Evolves l w w
  | run {t : Workspace} (h : Evolves l w t) (b : Builder) (command : BuildCommand)
      (hout : ∀ p k, b.config.outputPath = some p → t.locate p = .ok k → k = l) :
      Evolves l w (b.run t command).workspace
  | change {t u : Workspace} (h : Evolves l w t) (hkeep : u.find? l = t.find? l) :
      Evolves l w u

namespace Evolves
variable {w t : Workspace} {l : Location} {i : String}

theorem recordedId? (h : Evolves l w t) (hi : w.recordedId? l = some i) :
    t.recordedId? l = some i := by
  induction h with
  | start => exact hi
  | run h b command hout ih => exact Builder.recordedId?_run hout ih command
  | change h hkeep ih =>
    rw [Workspace.recordedId?_congr hkeep]
    exact ih

/-- Once a place records an ID, it records that ID for good, and a run that finds another one
in its sources fails with both and leaves everything as it was. -/
theorem id_continuity (h : Evolves l w t) (hi : w.recordedId? l = some i) :
    t.recordedId? l = some i ∧
    ∀ (b : Builder) (p : Path) (j : String), b.config.outputPath = some p →
      t.locate p = .ok l → Marker.findScriptId t b.name b.sourceFiles = .ok (some j) → j ≠ i →
        (b.run t .write).result = .error (.extract (.scriptIdMismatch i j)) ∧
          (b.run t .write).workspace = t := by
  have hnow := h.recordedId? hi
  refine ⟨hnow, fun b p j hp hl hj hne => ?_⟩
  have hbuild := Builder.build_of_ne hp hl hnow hj hne
  unfold Builder.run Builder.write
  rw [hbuild]
  exact ⟨rfl, rfl⟩

/-- A source file that appears with another ID than the one in `out.yml`. -/
theorem id_continuity_of_new_source :
    let saved : Descriptor := ⟨some "11", none, none, none⟩
    let w : Workspace :=
      ⟨[([Utf8.ofText "out.yml"], .file (Utf8.encode saved.toYaml.toList))], []⟩
    let t := w.insert [Utf8.ofText "a.vim"]
      (.file (Utf8.encode "\" GetLatestVimScripts: 12 1 a.vim".toList))
    let b : Builder :=
      ⟨{ BuildConfig.default with outfile := some "out.yml", files := ["a.vim"] }, "a", none⟩
    t.recordedId? [Utf8.ofText "out.yml"] = some "11" ∧
      (b.run t .write).result = .error (.extract (.scriptIdMismatch "11" "12")) ∧
        (b.run t .write).workspace = t := by
  intro saved w t b
  have hevolves : Evolves [Utf8.ofText "out.yml"] w t := .change .start rfl
  have hread : t.read "./a.vim" =
      .ok (Utf8.encode "\" GetLatestVimScripts: 12 1 a.vim".toList) := rfl
  have hlines : Marker.sourceLines t "./a.vim" =
      .ok ["\" GetLatestVimScripts: 12 1 a.vim"] := by
    unfold Marker.sourceLines
    simp only [hread, Failure.ofSystem, bind, Except.bind, Utf8.decodeLossy_encode]
    rfl
  have hscanned : Marker.findScriptId t b.name b.sourceFiles = .ok (some "12") := by
    have hfiles : b.sourceFiles = [("./a.vim" : Path)] := by decide
    have hfound : ["\" GetLatestVimScripts: 12 1 a.vim"].findSome? (Marker.scriptId? b.name) =
        some "12" := by decide
    rw [hfiles]
    unfold Marker.findScriptId Marker.findFirst
    simp only [hlines, bind, Except.bind, hfound]
    rfl
  obtain ⟨hid, hmismatch⟩ :=
    id_continuity hevolves (Workspace.recordedId?_of_page (d := saved) rfl)
  exact ⟨hid, hmismatch b "./out.yml" "12" (by decide) rfl hscanned (by decide)⟩

end Evolves
end PluginRelease
