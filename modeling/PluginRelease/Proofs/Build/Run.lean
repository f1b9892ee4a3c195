import PluginRelease.Build.Builder
import PluginRelease.Proofs.Failure
import PluginRelease.Proofs.Workspace.Write

/-!
What a run of the builder does to its workspace and its output: nothing if it fails, and
otherwise exactly what its command asks for.
-/
namespace PluginRelease

namespace BuildConfig

theorem outputPath_eq_none {c : BuildConfig}
    (h : c.outfile = none ∨ c.outfile = some ("-" : Path)) : c.outputPath = none := by
  unfold outputPath
  rcases h with h | h <;> rw [h] <;> rfl

theorem outputPath_eq_some {c : BuildConfig} {outfile : Path} (h : c.outfile = some outfile)
    (hname : outfile ≠ "-") : c.outputPath = some (c.resolve outfile) := by
  unfold outputPath
  rw [h, Option.filter_some, if_pos (by simpa using hname)]
  rfl

end BuildConfig

namespace Builder

/-! ## What was saved -/

section Saved
variable {b : Builder} {w : Workspace} {p : Path} {d : Descriptor}
  (hout : b.config.outputPath = some p)
include hout

theorem savedDescriptor_of_load (hfile : w.isFile p = true) (hload : Descriptor.load w p = .ok d) :
    b.savedDescriptor w = .ok (some d) := by
  unfold savedDescriptor
  rw [hout, Option.filter_some, if_pos hfile]
  dsimp only
  rw [hload]
  rfl

theorem savedDescriptor_of_no_file (hfile : w.isFile p = false) :
    b.savedDescriptor w = .ok none := by
  unfold savedDescriptor
  rw [hout, Option.filter_some, hfile]
  rfl

end Saved

/-! ## What is built -/

/-- The steps of a build that succeeds. -/
structure Built (b : Builder) (w : Workspace) (d : Descriptor) : Prop where
  steps : ∃ saved id merged version body checksum,
    b.savedDescriptor w = .ok saved ∧
    Marker.findScriptId w b.name b.sourceFiles = .ok id ∧
    (saved.getD .empty).mergeScriptId id = .ok merged ∧
    b.currentVersion w = .ok version ∧
    b.changelog w = .ok body ∧
    Changelog.checksumLine w b.config.archivePath = .ok checksum ∧
    d = ⟨merged.id, some version, some (body ++ checksum), b.config.archive.map (·.text)⟩
  complete : d.ensureComplete = .ok ()

theorem built_of_build {b : Builder} {w : Workspace} {d : Descriptor} (h : b.build w = .ok d) :
    Built b w d := by
  unfold build at h
  obtain ⟨⟨saved, id⟩, hscan, h⟩ := exists_of_bind h
  obtain ⟨found, hsaved, hscan⟩ := exists_of_bind hscan
  obtain ⟨id', hid, hscan⟩ := exists_of_bind hscan
  obtain ⟨rfl, rfl⟩ := Prod.mk.inj (Except.ok.inj hscan)
  obtain ⟨merged, hmerged, h⟩ := exists_of_bind h
  obtain ⟨version, hversion, h⟩ := exists_of_bind h
  obtain ⟨body, hbody, h⟩ := exists_of_bind h
  obtain ⟨checksum, hchecksum, h⟩ := exists_of_bind h
  obtain ⟨u, hcomplete, h⟩ := exists_of_bind h
  obtain rfl := Except.ok.inj h
  exact ⟨⟨found, id', merged, version, body, checksum, hsaved, hid, hmerged, hversion, hbody,
    hchecksum, rfl⟩, hcomplete⟩

section Steps
variable {b : Builder} {w : Workspace} {saved : Option Descriptor} {id : Option String}
  {merged : Descriptor} {version body checksum : String}
  (hsaved : b.savedDescriptor w = .ok saved)
  (hid : Marker.findScriptId w b.name b.sourceFiles = .ok id)
  (hmerged : (saved.getD .empty).mergeScriptId id = .ok merged)
  (hversion : b.currentVersion w = .ok version) (hbody : b.changelog w = .ok body)
  (hchecksum : Changelog.checksumLine w b.config.archivePath = .ok checksum)
include hsaved hid hmerged hversion hbody hchecksum

/-- What is left of a build whose steps succeed. -/
theorem build_eq_of_steps :
    b.build w = (Descriptor.ensureComplete ⟨merged.id, some version, some (body ++ checksum),
      b.config.archive.map (·.text)⟩).map fun _ => ⟨merged.id, some version,
        some (body ++ checksum), b.config.archive.map (·.text)⟩ := by
  unfold build scan
  rw [hsaved, hid]
  simp only [bind, Except.bind, pure, Except.pure, hmerged, hversion, hbody, hchecksum]
  rfl

/-- A build succeeds if its steps do and nothing is missing. -/
theorem build_of_steps
    (hcomplete : Descriptor.ensureComplete ⟨merged.id, some version, some (body ++ checksum),
      b.config.archive.map (·.text)⟩ = .ok ()) :
    b.build w = .ok ⟨merged.id, some version, some (body ++ checksum),
      b.config.archive.map (·.text)⟩ := by
  rw [build_eq_of_steps hsaved hid hmerged hversion hbody hchecksum, hcomplete]
  rfl

theorem build_error_of_steps {f : Failure}
    (hincomplete : Descriptor.ensureComplete ⟨merged.id, some version, some (body ++ checksum),
      b.config.archive.map (·.text)⟩ = .error f) : b.build w = .error f := by
  rw [build_eq_of_steps hsaved hid hmerged hversion hbody hchecksum, hincomplete]
  rfl

end Steps

/-- The step at which a build fails. -/
inductive FailsAt (b : Builder) (w : Workspace) (f : Failure) : Prop
  | saved (h : b.savedDescriptor w = .error f)
  | id (h : Marker.findScriptId w b.name b.sourceFiles = .error f)
  | merge {saved : Descriptor} {id : Option String} (h : saved.mergeScriptId id = .error f)
  | version (h : b.currentVersion w = .error f)
  | body (h : b.changelog w = .error f)
  | checksum (h : Changelog.checksumLine w b.config.archivePath = .error f)
  | incomplete {merged : Descriptor} {version body checksum : String}
      (hversion : b.currentVersion w = .ok version)
      (hchecksum : Changelog.checksumLine w b.config.archivePath = .ok checksum)
      (h : Descriptor.ensureComplete ⟨merged.id, some version, some (body ++ checksum),
        b.config.archive.map (·.text)⟩ = .error f)

theorem failsAt_of_build {b : Builder} {w : Workspace} {f : Failure} (h : b.build w = .error f) :
    FailsAt b w f := by
  unfold build at h
  -- one step of the build after the other, each with the ones before it behind it
  rcases error_of_bind h with hscan | ⟨⟨saved, id⟩, -, h⟩
  · rcases error_of_bind hscan with hsaved | ⟨saved, -, hscan⟩
    · exact .saved hsaved
    · rcases error_of_bind hscan with hid | ⟨id, -, hscan⟩
      · exact .id hid
      · cases hscan
  rcases error_of_bind h with hmerged | ⟨merged, -, h⟩
  · exact .merge hmerged
  rcases error_of_bind h with hversion | ⟨version, hversion, h⟩
  · exact .version hversion
  rcases error_of_bind h with hbody | ⟨body, -, h⟩
  · exact .body hbody
  rcases error_of_bind h with hchecksum | ⟨checksum, hchecksum, h⟩
  · exact .checksum hchecksum
  rcases error_of_bind h with hcomplete | ⟨u, -, h⟩
  · exact .incomplete hversion hchecksum hcomplete
  · cases h

/-! ## What a run does -/

/-- The ways in which a run may end. -/
inductive Effect (b : Builder) (w : Workspace) : BuildCommand → BuildOutcome → Prop
  | failed (command : BuildCommand) (f : Failure) (logs : List LogLine) :
      Effect b w command ⟨.error f, w, "", logs⟩
  | printed {command : BuildCommand} (hcommand : command ≠ .write) (output : String)
      (logs : List LogLine) : Effect b w command ⟨.ok (), w, output, logs⟩
  | shown {d : Descriptor} (hbuild : b.build w = .ok d) (hpath : b.config.outputPath = none)
      (logs : List LogLine) : Effect b w .write ⟨.ok (), w, d.toYaml, logs⟩
  | saved {d : Descriptor} {p : Path} {t : Workspace} (hbuild : b.build w = .ok d)
      (hpath : b.config.outputPath = some p)
      (hwrite : w.write p (Utf8.encode d.toYaml.toList) = .ok t) (logs : List LogLine) :
      Effect b w .write ⟨.ok (), t, "", logs⟩

theorem save_eq_ok_iff {d : Descriptor} {w t : Workspace} {p : Path} :
    d.save w p = .ok t ↔ w.write p (Utf8.encode d.toYaml.toList) = .ok t := by
  unfold Descriptor.save Failure.ofSystem
  cases w.write p (Utf8.encode d.toYaml.toList) with
  | error e => simp
  | ok u => simp

theorem write_effect (b : Builder) (w : Workspace) : Effect b w .write (b.write w) := by
  unfold write
  cases hbuild : b.build w with
  | error f => exact .failed .write f _
  | ok d =>
    cases hpath : b.config.outputPath with
    | none => exact .shown hbuild hpath _
    | some p =>
      dsimp only
      cases hsave : d.save w p with
      | error f => exact .failed .write f _
      | ok t => exact .saved hbuild hpath (save_eq_ok_iff.mp hsave) _

theorem run_effect (b : Builder) (w : Workspace) (command : BuildCommand) :
    Effect b w command (b.run w command) := by
  cases command with
  | write => exact b.write_effect w
  | printVersion =>
    unfold run
    cases b.currentVersion w with
    | error f => exact .failed .printVersion f _
    | ok v => exact .printed (by decide) _ _
  | printSavedVersion =>
    unfold run
    cases b.savedVersion w with
    | error f => exact .failed .printSavedVersion f _
    | ok v =>
      cases v with
      | none => exact .printed (by decide) _ _
      | some v => exact .printed (by decide) _ _

/-- A run with an output path that succeeds has built a descriptor and written its page. -/
theorem exists_of_run {b : Builder} {w : Workspace} {p : Path}
    (hpath : b.config.outputPath = some p) (hrun : (b.run w .write).result = .ok ()) :
    ∃ d, b.build w = .ok d ∧
      w.write p (Utf8.encode d.toYaml.toList) = .ok (b.run w .write).workspace := by
  have heffect := b.run_effect w .write
  generalize b.run w .write = outcome at hrun heffect
  cases heffect with
  | failed command f logs => cases hrun
  | printed hcommand output logs => exact absurd rfl hcommand
  | shown hbuild hnone logs =>
    rw [hpath] at hnone
    cases hnone
  | @saved d q t hbuild hpath' hwrite logs =>
    obtain rfl := Option.some.inj (hpath.symm.trans hpath')
    exact ⟨d, hbuild, hwrite⟩

/-- A descriptor that is built and whose page can be written makes a run that succeeds. -/
theorem run_write_of_build {b : Builder} {w t : Workspace} {d : Descriptor} {p : Path}
    (hbuild : b.build w = .ok d) (hpath : b.config.outputPath = some p)
    (hwrite : w.write p (Utf8.encode d.toYaml.toList) = .ok t) :
    (b.run w .write).result = .ok () ∧ (b.run w .write).workspace = t := by
  have hsave : d.save w p = .ok t := save_eq_ok_iff.mpr hwrite
  unfold run write
  rw [hbuild, hpath]
  dsimp only
  rw [hsave]
  exact ⟨rfl, rfl⟩

/-- A run is all or nothing. One that fails has changed no file and printed nothing. One that
succeeds has changed none either, unless it writes to an output file: then that file alone is
different, and holds the page of the descriptor that was built, which is otherwise printed. -/
theorem run_allOrNothing (b : Builder) (w : Workspace) (command : BuildCommand) :
    (∀ f, (b.run w command).result = .error f →
      (b.run w command).workspace = w ∧ (b.run w command).output = "") ∧
    ((b.run w command).result = .ok () →
      (command ≠ .write → (b.run w command).workspace = w) ∧
      (command = .write → ∃ d, b.build w = .ok d ∧
        (∀ outfile, b.config.outfile = some outfile → outfile ≠ "-" →
          (b.run w command).output = "" ∧ w.Rewritten (b.run w command).workspace
            (b.config.resolve outfile) (Utf8.encode d.toYaml.toList)) ∧
        (b.config.outfile = none ∨ b.config.outfile = some ("-" : Path) →
          (b.run w command).workspace = w ∧ (b.run w command).output = d.toYaml))) := by
  have heffect := b.run_effect w command
  generalize b.run w command = outcome at heffect
  cases heffect with
  | failed command f logs => exact ⟨fun g _ => ⟨rfl, rfl⟩, fun h => nomatch h⟩
  | printed hcommand output logs =>
    refine ⟨fun g h => (nomatch h), fun _ => ⟨fun _ => rfl, fun h => absurd h hcommand⟩⟩
  | @shown d hbuild hpath logs =>
    refine ⟨fun g h => (nomatch h), fun _ => ⟨fun h => absurd rfl h, fun _ => ⟨d, hbuild, ?_, ?_⟩⟩⟩
    · intro outfile houtfile hname
      rw [BuildConfig.outputPath_eq_some houtfile hname] at hpath
      cases hpath
    · exact fun _ => ⟨rfl, rfl⟩
  | @saved d p t hbuild hpath hwrite logs =>
    refine ⟨fun g h => (nomatch h), fun _ => ⟨fun h => absurd rfl h, fun _ => ⟨d, hbuild, ?_, ?_⟩⟩⟩
    · intro outfile houtfile hname
      rw [BuildConfig.outputPath_eq_some houtfile hname] at hpath
      obtain rfl := Option.some.inj hpath
      exact ⟨rfl, Workspace.rewritten_of_write hwrite⟩
    · intro hnone
      rw [BuildConfig.outputPath_eq_none hnone] at hpath
      cases hpath

end Builder
end PluginRelease
