import PluginRelease.Build.Tool
import PluginRelease.Proofs.Build.Rebuild

/-!
The exit code of a run that fails. Every failure has a cause, a file that the run was pointed to
or something else, and the cause decides the code. A bad file is bad configuration, unless it is a
source file that is not there, or a configuration or a saved descriptor that is no text.
-/
namespace PluginRelease

/-! ## Causes -/

/-- What a run reads at a path that it was given. -/
inductive InputFile
  | config
  | recipe
  | archive
  | source
  | saved
deriving DecidableEq, Repr

inductive Flaw
  | missing
  | notText
  | malformed
deriving DecidableEq, Repr

/-- What is wrong with a file of no use: it is missing, holds no text, or not the right one. -/
def Workspace.flaw (w : Workspace) (p : Path) : Flaw :=
  match w.read p with
  | .error _ => .missing
  | .ok content => if (Utf8.decode? content).isSome then .malformed else .notText

/-- Why a run fails. -/
inductive Cause
  | input (file : InputFile) (path : Path) (flaw : Flaw)
  /-- An option is missing or has a value of no use. -/
  | options
  /-- The files do not say what a descriptor needs. -/
  | content
  | history
  | output
deriving DecidableEq, Repr

def Cause.exitCode : Cause → ExitCode
  | .input .source _ _ => .failure
  | .input .config _ .notText => .failure
  | .input .saved _ .notText => .failure
  | .input _ _ _ => .config
  | .options => .config
  | .content => .config
  | .history => .failure
  | .output => .failure

def ConfigFailure.isOption : ConfigFailure → Bool
  | folderNotFound _ => true
  | missingOption _ => true
  | invalidArgument _ => true
  | _ => false

namespace BuildTool

/-- The run ends with this failure. -/
def Fails (w : Workspace) (a : BuildArguments) (f : Failure) : Prop :=
  builder w a = .error f ∨
    ∃ b, builder w a = .ok b ∧ (b.run w a.command).result = .error f

/-- The step that depends on a cause ends with this failure. -/
inductive FailsFor (w : Workspace) (a : BuildArguments) : Cause → Failure → Prop
  | config {p : Path} {f : Failure} (hpath : a.config = some p)
      (hload : BuildConfig.load w a.config = .error f) :
      FailsFor w a (.input .config p (w.flaw p)) f
  | recipe {c : BuildConfig} {p : Path} {e : SystemFault} {f : Failure}
      (hload : BuildConfig.load w a.config = .ok c)
      (hpath : (c.override a.overrides).recipe = some p) (hread : w.readText p = .error e)
      (hexpand : (c.override a.overrides).expandRecipe w p = .error f) :
      FailsFor w a (.input .recipe p (w.flaw p)) f
  | archive {c d : BuildConfig} {f : Failure} (hload : BuildConfig.load w a.config = .ok c)
      (happly : c.apply w a.overrides = .ok d)
      (hothers : w.isFolder d.dir = true ∧ d.name.all (· == "") = false ∧
        d.files.isEmpty = false ∧ d.archive.isNone = false)
      (hvalidate : d.validate w = .error f) :
      FailsFor w a (.input .archive d.archivePath (w.flaw d.archivePath)) f
  | source {b : Builder} {p : Path} {f : Failure} (hbuilder : builder w a = .ok b)
      (hpath : p ∈ b.sourceFiles) (hread : Marker.sourceLines w p = .error f) :
      FailsFor w a (.input .source p (w.flaw p)) f
  | saved {b : Builder} {p : Path} {f : Failure} (hbuilder : builder w a = .ok b)
      (hpath : b.config.outputPath = some p) (hthere : w.isFile p = true)
      (hload : Descriptor.load w p = .error f) :
      FailsFor w a (.input .saved p (w.flaw p)) f
  | options {cause : ConfigFailure} (hbuilder : builder w a = .error (.config cause))
      (hoption : cause.isOption = true) : FailsFor w a .options (.config cause)
  | content {b : Builder} {cause : ExtractFailure} (hbuilder : builder w a = .ok b)
      (hrun : (b.run w a.command).result = .error (.extract cause)) :
      FailsFor w a .content (.extract cause)
  | history {b : Builder} {f : Failure} (hbuilder : builder w a = .ok b)
      (hchanges : b.gitChanges w = .error f) : FailsFor w a .history f
  | output {b : Builder} {d : Descriptor} {p : Path} {f : Failure}
      (hbuilder : builder w a = .ok b) (hbuild : b.build w = .ok d)
      (hpath : b.config.outputPath = some p) (hsave : d.save w p = .error f) :
      FailsFor w a .output f

end BuildTool

/-! ## Steps that fail -/

/-- A system call that fails is no matter of configuration. -/
theorem Failure.exitCode_of_ofSystem {α : Type} {headline : String} {x : Except SystemFault α}
    {f : Failure} (h : ofSystem headline x = .error f) : f.exitCode = .failure := by
  cases x with
  | ok a => cases h
  | error e =>
    obtain rfl := Except.error.inj h
    rw [exitCode_addContext]
    rfl

namespace Workspace
variable {w : Workspace} {p : Path}

theorem flaw_of_not_isFile (h : w.isFile p = false) : w.flaw p = .missing := by
  unfold flaw
  cases hread : w.read p with
  | error e => rfl
  | ok content =>
    have hfile : w.isFile p = true := isFile_iff.mpr ⟨content, hread⟩
    rw [h] at hfile
    cases hfile

theorem flaw_of_readText {s : String} (h : w.readText p = .ok s) : w.flaw p = .malformed := by
  unfold readText at h
  unfold flaw
  cases hread : w.read p with
  | error e =>
    rw [hread] at h
    cases h
  | ok content =>
    rw [hread] at h
    cases hdecode : Utf8.decode? content with
    | none =>
      simp only [bind, Except.bind, hdecode] at h
      cases h
    | some text =>
      dsimp only
      rw [hdecode]
      rfl

/-- A file that is there but cannot be read as text holds none. -/
theorem flaw_of_readText_error {e : SystemFault} (hfile : w.isFile p = true)
    (h : w.readText p = .error e) : w.flaw p = .notText := by
  obtain ⟨content, hread⟩ := isFile_iff.mp hfile
  unfold readText at h
  unfold flaw
  rw [hread] at h ⊢
  cases hdecode : Utf8.decode? content with
  | none =>
    dsimp only
    rw [hdecode]
    rfl
  | some text =>
    simp only [bind, Except.bind, hdecode] at h
    cases h

/-- A step that reads the text of a file fails with the reading, or after it on what was read. -/
theorem flaw_of_reading {α : Type} {headline : String} {k : String → Except Failure α}
    {f : Failure} (hfile : w.isFile p = true)
    (h : Failure.ofSystem headline (w.readText p) >>= k = .error f) :
    (w.flaw p = .notText ∧ f.exitCode = .failure) ∨
      (w.flaw p = .malformed ∧ ∃ s, k s = .error f) := by
  cases htext : w.readText p with
  | error e =>
    rw [htext] at h
    rcases error_of_bind h with h | ⟨s, hs, -⟩
    · exact .inl ⟨flaw_of_readText_error hfile htext, Failure.exitCode_of_ofSystem h⟩
    · cases hs
  | ok s =>
    rw [htext] at h
    exact .inr ⟨flaw_of_readText htext, s, h⟩

end Workspace

/-- Three ways in which a configuration file is of no use. -/
theorem BuildConfig.exitCode_of_load {w : Workspace} {p : Path} {f : Failure}
    (h : load w (some p) = .error f) :
    f.exitCode = (Cause.input .config p (w.flaw p)).exitCode := by
  change ConfigFile.load shape w p = .error f at h
  unfold ConfigFile.load at h
  cases hfile : w.isFile p with
  | false =>
    rw [hfile, if_neg Bool.false_ne_true] at h
    obtain rfl := Except.error.inj h
    rw [Workspace.flaw_of_not_isFile hfile]
    rfl
  | true =>
    rw [hfile, if_pos rfl] at h
    rcases Workspace.flaw_of_reading hfile h with ⟨hflaw, hcode⟩ | ⟨hflaw, s, h⟩
    · rw [hflaw]
      exact hcode
    · rw [hflaw]
      split at h
      · cases h
      · split at h
        · cases h
        · obtain rfl := Except.error.inj h
          rfl

theorem Descriptor.exitCode_of_load {w : Workspace} {p : Path} {f : Failure}
    (hfile : w.isFile p = true) (h : load w p = .error f) :
    f.exitCode = (Cause.input .saved p (w.flaw p)).exitCode := by
  unfold load at h
  rcases Workspace.flaw_of_reading hfile h with ⟨hflaw, hcode⟩ | ⟨hflaw, s, h⟩
  · rw [hflaw]
    exact hcode
  · rw [hflaw]
    split at h
    · cases h
    · obtain rfl := Except.error.inj h
      rfl

theorem BuildConfig.exitCode_of_expandRecipe {c : BuildConfig} {w : Workspace} {p : Path}
    {f : Failure} (h : c.expandRecipe w p = .error f) : f.exitCode = .config := by
  unfold expandRecipe at h
  split at h
  · obtain rfl := Except.error.inj h
    rfl
  · split at h
    · obtain rfl := Except.error.inj h
      rfl
    · cases h

/-- A configuration is refused for an option, or for want of the archive that it names. -/
theorem BuildConfig.of_validate_error {c : BuildConfig} {w : Workspace} {f : Failure}
    (h : c.validate w = .error f) :
    (∃ cause : ConfigFailure, f = .config cause ∧ cause.isOption = true) ∨
      (w.isFolder c.dir = true ∧ c.name.all (· == "") = false ∧ c.files.isEmpty = false ∧
        c.archive.isNone = false) ∧
      f = .config (.missingFile "Distribution archive" c.archivePath) := by
  unfold validate at h
  split at h
  · exact .inl ⟨_, (Except.error.inj h).symm, rfl⟩
  · next hdir =>
    split at h
    · exact .inl ⟨_, (Except.error.inj h).symm, rfl⟩
    · next hname =>
      split at h
      · exact .inl ⟨_, (Except.error.inj h).symm, rfl⟩
      · next hfiles =>
        split at h
        · exact .inl ⟨_, (Except.error.inj h).symm, rfl⟩
        · next harchive =>
          split at h
          · refine .inr ⟨⟨?_, ?_, ?_, ?_⟩, (Except.error.inj h).symm⟩
            · simpa using hdir
            · exact Bool.eq_false_iff.mpr hname
            · exact Bool.eq_false_iff.mpr hfiles
            · exact Bool.eq_false_iff.mpr harchive
          · cases h

theorem BuildConfig.exitCode_of_validate {c : BuildConfig} {w : Workspace} {f : Failure}
    (h : c.validate w = .error f) : f.exitCode = .config := by
  rcases of_validate_error h with ⟨cause, rfl, -⟩ | ⟨-, rfl⟩
  · rfl
  · rfl

theorem Marker.exitCode_of_sourceLines {w : Workspace} {p : Path} {f : Failure}
    (h : sourceLines w p = .error f) : f.exitCode = .failure := by
  unfold sourceLines at h
  rcases error_of_bind h with h | ⟨content, -, h⟩
  · exact Failure.exitCode_of_ofSystem h
  · cases h

theorem Repository.exitCode_of_search {w : Workspace} {folder : Path} {f : Failure} {fuel : Nat}
    {l : Location} (h : search w folder fuel l = .error f) : f.exitCode = .failure := by
  induction fuel generalizing l with
  | zero =>
    obtain rfl := Except.error.inj h
    rfl
  | succ fuel ih =>
    unfold search at h
    split at h
    · cases h
    · split at h
      · obtain rfl := Except.error.inj h
        rfl
      · split at h
        · cases h
        · obtain rfl := Except.error.inj h
          rfl
    · split at h
      · obtain rfl := Except.error.inj h
        rfl
      · exact ih h

theorem Builder.exitCode_of_gitChanges {b : Builder} {w : Workspace} {f : Failure}
    (h : b.gitChanges w = .error f) : f.exitCode = .failure := by
  unfold gitChanges at h
  split at h
  · rcases error_of_bind h with h | ⟨history, -, h⟩
    · unfold Repository.history at h
      split at h
      · obtain rfl := Except.error.inj h
        rfl
      · exact Repository.exitCode_of_search h
    · split at h
      · cases h
      · rcases error_of_bind h with h | ⟨log, -, h⟩
        · unfold Repository.logLines at h
          split at h
          · obtain rfl := Except.error.inj h
            rfl
          · cases h
        · cases h
  · cases h

namespace Descriptor

theorem mismatch_of_mergeScriptId {d : Descriptor} {found : Option String} {f : Failure}
    (h : d.mergeScriptId found = .error f) :
    ∃ expected id, f = .extract (.scriptIdMismatch expected id) := by
  unfold mergeScriptId at h
  split at h
  · cases h
  · split at h
    · split at h
      · cases h
      · exact ⟨_, _, (Except.error.inj h).symm⟩
    · cases h

end Descriptor

namespace Builder
variable {b : Builder} {w : Workspace} {f : Failure}

theorem exists_load_of_savedDescriptor (h : b.savedDescriptor w = .error f) :
    ∃ p, b.config.outputPath = some p ∧ w.isFile p = true ∧ Descriptor.load w p = .error f := by
  unfold savedDescriptor at h
  split at h
  · next p hpath =>
    obtain ⟨hout, hthere⟩ := Option.filter_eq_some_iff.mp hpath
    cases hload : Descriptor.load w p with
    | error g =>
      rw [hload] at h
      obtain rfl := Except.error.inj h
      exact ⟨p, hout, hthere, hload⟩
    | ok d =>
      rw [hload] at h
      cases h
  · cases h

theorem currentVersion_error (h : b.currentVersion w = .error f) :
    Marker.findVersion w b.name b.sourceFiles = .error f ∨
      f = .extract (.versionNotFound b.name) := by
  unfold currentVersion at h
  rcases error_of_bind h with hfind | ⟨found, -, h⟩
  · exact .inl hfind
  · split at h
    · cases h
    · exact .inr (Except.error.inj h).symm

theorem gitChanges_of_changelog_error (h : b.changelog w = .error f) : b.gitChanges w = .error f := by
  unfold changelog at h
  rcases error_of_bind h with hchanges | ⟨changes, -, h⟩
  · exact hchanges
  · split at h
    · cases h
    · split at h
      · cases h
      · cases h

end Builder

namespace BuildTool
variable {w : Workspace} {a : BuildArguments} {b : Builder} {f : Failure}

/-- The cause decides the exit code. -/
theorem FailsFor.exitCode {cause : Cause} (h : FailsFor w a cause f) :
    f.exitCode = cause.exitCode := by
  cases h with
  | config hpath hload =>
    rw [hpath] at hload
    exact BuildConfig.exitCode_of_load hload
  | recipe hload hpath hread hexpand => exact BuildConfig.exitCode_of_expandRecipe hexpand
  | archive hload happly hothers hvalidate => exact BuildConfig.exitCode_of_validate hvalidate
  | source hbuilder hpath hread => exact Marker.exitCode_of_sourceLines hread
  | saved hbuilder hpath hthere hload => exact Descriptor.exitCode_of_load hthere hload
  | options hbuilder hoption => rfl
  | content hbuilder hrun => rfl
  | history hbuilder hchanges => exact Builder.exitCode_of_gitChanges hchanges
  | output hbuilder hbuild hpath hsave => exact Failure.exitCode_of_ofSystem hsave

/-! ## A cause for every failure -/

theorem failsFor_of_load (h : BuildConfig.load w a.config = .error f) :
    ∃ cause, FailsFor w a cause f := by
  cases hpath : a.config with
  | none =>
    rw [hpath] at h
    cases h
  | some p => exact ⟨_, .config hpath h⟩

theorem failsFor_of_apply {c : BuildConfig} (hload : BuildConfig.load w a.config = .ok c)
    (h : c.apply w a.overrides = .error f) : ∃ cause, FailsFor w a cause f := by
  have hbuilder : builder w a = .error f := by
    unfold builder
    rw [hload]
    simp only [bind, Except.bind, h]
  unfold BuildConfig.apply at h
  dsimp only at h
  split at h
  · obtain rfl := Except.error.inj h
    exact ⟨.options, .options hbuilder rfl⟩
  · split at h
    · next p hpath =>
      have hexpand := h
      unfold BuildConfig.expandRecipe at h
      split at h
      · next e hread => exact ⟨_, .recipe hload hpath hread hexpand⟩
      · split at h
        · obtain rfl := Except.error.inj h
          exact ⟨.options, .options hbuilder rfl⟩
        · cases h
    · cases h

theorem failsFor_of_ofConfig {c d : BuildConfig} (hload : BuildConfig.load w a.config = .ok c)
    (happly : c.apply w a.overrides = .ok d) (h : Builder.ofConfig w d = .error f) :
    ∃ cause, FailsFor w a cause f := by
  have hbuilder : builder w a = .error f := by
    unfold builder
    rw [hload]
    simp only [bind, Except.bind, happly, h]
  unfold Builder.ofConfig at h
  rcases error_of_bind h with hvalidate | ⟨u, -, h⟩
  · rcases BuildConfig.of_validate_error hvalidate with ⟨cause, rfl, hoption⟩ | ⟨hothers, -⟩
    · exact ⟨.options, .options hbuilder hoption⟩
    · exact ⟨_, .archive hload happly hothers hvalidate⟩
  · dsimp only at h
    split at h
    · cases h
    · split at h
      · cases h
      · obtain rfl := Except.error.inj h
        exact ⟨.options, .options hbuilder rfl⟩

theorem failsFor_of_builder (h : builder w a = .error f) : ∃ cause, FailsFor w a cause f := by
  unfold builder at h
  rcases error_of_bind h with hload | ⟨c, hload, h⟩
  · exact failsFor_of_load hload
  · rcases error_of_bind h with happly | ⟨d, happly, h⟩
    · exact failsFor_of_apply hload happly
    · exact failsFor_of_ofConfig hload happly h

theorem failsFor_of_savedDescriptor (hbuilder : builder w a = .ok b)
    (h : b.savedDescriptor w = .error f) : ∃ cause, FailsFor w a cause f := by
  obtain ⟨p, hpath, hthere, hload⟩ := Builder.exists_load_of_savedDescriptor h
  exact ⟨_, .saved hbuilder hpath hthere hload⟩

theorem failsFor_of_findFirst {parse : String → Option String} (hbuilder : builder w a = .ok b)
    (h : Marker.findFirst w parse b.sourceFiles = .error f) : ∃ cause, FailsFor w a cause f := by
  obtain ⟨p, hpath, hread⟩ := Marker.exists_of_findFirst_error h
  exact ⟨_, .source hbuilder hpath hread⟩

theorem failsFor_of_currentVersion (hbuilder : builder w a = .ok b)
    (hrun : (b.run w a.command).result = .error f) (h : b.currentVersion w = .error f) :
    ∃ cause, FailsFor w a cause f := by
  rcases Builder.currentVersion_error h with hfind | rfl
  · exact failsFor_of_findFirst hbuilder hfind
  · exact ⟨.content, .content hbuilder hrun⟩

/-- The archive is there when the run begins, so its checksum does not fail. -/
theorem exists_checksumLine (hbuilder : builder w a = .ok b) :
    ∃ line, Changelog.checksumLine w b.config.archivePath = .ok line := by
  unfold builder at hbuilder
  obtain ⟨c, -, hbuilder⟩ := exists_of_bind hbuilder
  obtain ⟨d, -, hofConfig⟩ := exists_of_bind hbuilder
  have hconfig := Builder.config_of_ofConfig hofConfig
  unfold Builder.ofConfig at hofConfig
  obtain ⟨u, hvalid, -⟩ := exists_of_bind hofConfig
  obtain ⟨-, -, -, -, hfile⟩ := BuildConfig.validate_eq_ok_iff.mp hvalid
  obtain ⟨content, hread⟩ := Workspace.isFile_iff.mp hfile
  rw [hconfig]
  exact ⟨_, Changelog.checksumLine_of_read hread⟩

theorem failsFor_of_build (hbuilder : builder w a = .ok b)
    (hrun : (b.run w a.command).result = .error f) (h : b.build w = .error f) :
    ∃ cause, FailsFor w a cause f := by
  cases Builder.failsAt_of_build h with
  | saved hsaved => exact failsFor_of_savedDescriptor hbuilder hsaved
  | id hid => exact failsFor_of_findFirst hbuilder hid
  | merge hmerged =>
    obtain ⟨expected, id, rfl⟩ := Descriptor.mismatch_of_mergeScriptId hmerged
    exact ⟨.content, .content hbuilder hrun⟩
  | version hversion => exact failsFor_of_currentVersion hbuilder hrun hversion
  | body hbody =>
    exact ⟨.history, .history hbuilder (Builder.gitChanges_of_changelog_error hbody)⟩
  | checksum hchecksum =>
    obtain ⟨line, hline⟩ := exists_checksumLine hbuilder
    rw [hline] at hchecksum
    cases hchecksum
  | incomplete hversion hchecksum hcomplete =>
    obtain ⟨-, rfl⟩ := Descriptor.ensureComplete_eq_error_iff.mp hcomplete
    exact ⟨.content, .content hbuilder hrun⟩

theorem failsFor_of_run (hbuilder : builder w a = .ok b)
    (hrun : (b.run w a.command).result = .error f) : ∃ cause, FailsFor w a cause f := by
  have hresult := hrun
  unfold Builder.run at hresult
  split at hresult
  · unfold Builder.write at hresult
    dsimp only at hresult
    split at hresult
    · next g hbuild =>
      obtain rfl := Except.error.inj hresult
      exact failsFor_of_build hbuilder hrun hbuild
    · next d hbuild =>
      split at hresult
      · cases hresult
      · next p hpath =>
        split at hresult
        · next g hsave =>
          obtain rfl := Except.error.inj hresult
          exact ⟨.output, .output hbuilder hbuild hpath hsave⟩
        · cases hresult
  · split at hresult
    · next g hversion =>
      obtain rfl := Except.error.inj hresult
      exact failsFor_of_currentVersion hbuilder hrun hversion
    · cases hresult
  · split at hresult
    · next g hversion =>
      obtain rfl := Except.error.inj hresult
      have hsaved : b.savedDescriptor w = .error g := by
        unfold Builder.savedVersion at hversion
        cases hsaved : b.savedDescriptor w with
        | error e =>
          rw [hsaved] at hversion
          obtain rfl := Except.error.inj hversion
          rfl
        | ok d =>
          rw [hsaved] at hversion
          cases hversion
      exact failsFor_of_savedDescriptor hbuilder hsaved
    · cases hresult
    · cases hresult

/-- What a failing run says about its cause. There is one for every failure, and the failure, and
with it the process, has the exit code of its cause. -/
theorem exitCode_of_failure (hfails : Fails w a f) :
    (∃ cause, FailsFor w a cause f) ∧
    (∀ cause, FailsFor w a cause f → f.exitCode = cause.exitCode) ∧
    ∀ args, BuildArguments.read args = .ok a →
      (run w args).ending.exitCode = f.exitCode.toNat := by
  refine ⟨?_, fun cause h => h.exitCode, fun args hargs => ?_⟩
  · rcases hfails with hbuilder | ⟨b, hbuilder, hrun⟩
    · exact failsFor_of_builder hbuilder
    · exact failsFor_of_run hbuilder hrun
  · unfold run
    rw [hargs]
    rcases hfails with hbuilder | ⟨b, hbuilder, hrun⟩
    · dsimp only
      rw [hbuilder]
      rfl
    · dsimp only
      rw [hbuilder]
      dsimp only
      rw [hrun]
      rfl

/-- A configuration file whose only byte starts no character. -/
theorem exitCode_of_failure_of_broken_config :
    let w : Workspace := ⟨[([Utf8.ofText "c.yml"], .file [0xFF])], []⟩
    let a : BuildArguments := ⟨.write, some "c.yml", .quiet, .empty⟩
    let f : Failure :=
      .plain "Failed to read config from c.yml" (some "stream did not contain valid UTF-8") none
    Fails w a f ∧ FailsFor w a (.input .config "c.yml" .notText) f ∧ f.exitCode = .failure ∧
      (run w (["-c", "c.yml"].map Utf8.ofText)).ending.exitCode = 1 := by
  intro w a f
  have hfile : w.isFile "c.yml" = true := rfl
  have hdecode : Utf8.decode? [0xFF] = none := by
    simp [Utf8.decode?, Utf8.pieces, Utf8.lead]
  have hbytes : w.read "c.yml" = .ok [0xFF] := rfl
  have htext : w.readText "c.yml" = .error .notText := by
    unfold Workspace.readText
    rw [hbytes]
    simp only [bind, Except.bind, hdecode]
  have hload : BuildConfig.load w a.config = .error f := by
    change ConfigFile.load _ w "c.yml" = _
    unfold ConfigFile.load
    rw [if_pos hfile, htext, Path.text_ofText]
    rfl
  have hfails : Fails w a f := by
    left
    unfold builder
    rw [hload]
    rfl
  have hflaw := Workspace.flaw_of_readText_error hfile htext
  have hcause : FailsFor w a (.input .config "c.yml" .notText) f := by
    rw [← hflaw]
    exact .config rfl hload
  obtain ⟨-, hcode, hprocess⟩ := exitCode_of_failure hfails
  have hread : BuildArguments.read (["-c", "c.yml"].map Utf8.ofText) = .ok a := rfl
  exact ⟨hfails, hcause, hcode _ hcause, hprocess _ hread⟩

/-- A source file that is not there, beside an archive that is. -/
theorem exitCode_of_missing_source :
    let w : Workspace := ⟨[([Utf8.ofText "a.vba"], .file [])], []⟩
    let a : BuildArguments := ⟨.printVersion, none, .quiet,
      { BuildOverrides.empty with
        archive := some "a.vba", name := some "a", files := ["a.vim"] }⟩
    let f : Failure := .plain "Failed to read source file ./a.vim"
      (some "No such file or directory (os error 2)") none
    Fails w a f ∧ FailsFor w a (.input .source "./a.vim" .missing) f ∧
      f.exitCode ≠ .config := by
  intro w a f
  let c : BuildConfig := { BuildConfig.default with
    archive := some "a.vba", name := some "a", files := ["a.vim"] }
  let b : Builder := ⟨c, "a", none⟩
  have happly : BuildConfig.apply .default w a.overrides = .ok c := rfl
  have hpath : c.archivePath = "./a.vba" := by decide
  have hsources : b.sourceFiles = [("./a.vim" : Path)] := by decide
  have hvalidate : c.validate w = .ok () := by
    have hdir : w.isFolder "." = true := rfl
    have harchive : w.isFile "./a.vba" = true := rfl
    rw [BuildConfig.validate_eq_ok_iff, hpath]
    exact ⟨hdir, by decide, rfl, rfl, harchive⟩
  have hbuilder : builder w a = .ok b := by
    change (BuildConfig.apply .default w a.overrides >>= Builder.ofConfig w) = .ok b
    rw [happly]
    change Builder.ofConfig w c = .ok b
    unfold Builder.ofConfig
    rw [hvalidate]
    rfl
  have hread : Marker.sourceLines w "./a.vim" = .error f := by
    unfold Marker.sourceLines
    rw [Path.text_ofText]
    rfl
  have hflaw : w.flaw "./a.vim" = .missing := rfl
  have hrun : (b.run w .printVersion).result = .error f := by
    unfold Builder.run Builder.currentVersion Marker.findVersion
    rw [hsources]
    unfold Marker.findFirst
    rw [hread]
    rfl
  refine ⟨.inr ⟨b, hbuilder, hrun⟩, ?_, by decide⟩
  rw [← hflaw]
  exact .source hbuilder (by rw [hsources]; exact List.mem_cons_self) hread

end BuildTool
end PluginRelease
