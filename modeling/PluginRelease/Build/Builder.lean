import PluginRelease.Build.Config
import PluginRelease.Changelog
import PluginRelease.Descriptor.Codec
import PluginRelease.Log
import PluginRelease.Marker
import PluginRelease.Pattern.Reading
import PluginRelease.Tag
import PluginRelease.Workspace.Repository

/-!
Building a descriptor from plugin sources, the history of the working directory and what was
saved before. Nothing is written before everything has succeeded.
-/
namespace PluginRelease

inductive BuildCommand
  | write
  | printVersion
  | printSavedVersion
deriving DecidableEq, Repr

structure Builder where
  config : BuildConfig
  name : String
  /-- Commit lines with a match of this pattern are left out. -/
  ignore : Option Pattern
deriving Repr

/-- What a run leaves behind. -/
structure BuildOutcome where
  result : Except Failure Unit
  workspace : Workspace
  output : String
  logs : List LogLine

namespace Builder

def ofConfig (w : Workspace) (c : BuildConfig) : Except Failure Builder := do
  c.validate w
  let ignore ← match c.ignorePattern with
    | none => pure none
    | some text =>
      match Pattern.ofText text with
      | .ok p => pure (some p)
      | .error e => .error (.config (.invalidArgument
          ("Invalid ignore_git_messages_rx: " ++ e.message)))
  pure ⟨c, c.name.getD "", ignore⟩

def ignores (b : Builder) (line : List Char) : Bool := b.ignore.any (·.isIn line)

def sourceFiles (b : Builder) : List Path := b.config.files.map b.config.resolve

def currentVersion (b : Builder) (w : Workspace) : Except Failure String := do
  match ← Marker.findVersion w b.name b.sourceFiles with
  | some v => pure v
  | none => .error (.extract (.versionNotFound b.name))

/-- The descriptor in the output file, if that file exists. -/
def savedDescriptor (b : Builder) (w : Workspace) : Except Failure (Option Descriptor) :=
  match b.config.outputPath.filter w.isFile with
  | some p => (Descriptor.load w p).map some
  | none => .ok none

def savedVersion (b : Builder) (w : Workspace) : Except Failure (Option String) :=
  (b.savedDescriptor w).map fun d => d.bind (·.version)

/-- The commits since the highest tag, if there is a repository with a tag. -/
def gitChanges (b : Builder) (w : Workspace) : Except Failure (Option (List Char)) :=
  if w.exists? (b.config.dir.join ".git") then do
    let history ← Repository.history w b.config.dir
    match Tag.latest? (Repository.tagLines history) with
    | none => pure none
    | some tag =>
      let log ← Repository.logLines history tag
      pure (Changelog.ofLog? b.ignores log)
  else .ok none

/-- The comment without its checksum line. -/
def changelog (b : Builder) (w : Workspace) : Except Failure String := do
  match ← b.gitChanges w with
  | some changes => pure (String.ofList changes)
  | none =>
    match b.config.historyTemplate with
    | some template => pure (Changelog.formatHistory template b.name ++ "\n")
    | none => pure ""

/-- What was saved, and the ID in the sources. -/
def scan (b : Builder) (w : Workspace) : Except Failure (Descriptor × Option String) := do
  let saved ← b.savedDescriptor w
  let id ← Marker.findScriptId w b.name b.sourceFiles
  pure (saved.getD .empty, id)

/-- The archive is recorded as text, so a path that is none is not kept as it is. -/
def build (b : Builder) (w : Workspace) : Except Failure Descriptor := do
  let (saved, id) ← b.scan w
  let merged ← saved.mergeScriptId id
  let version ← b.currentVersion w
  let body ← b.changelog w
  let checksum ← Changelog.checksumLine w b.config.archivePath
  let d : Descriptor := { merged with
    version := some version
    message := some (body ++ checksum)
    file := b.config.archive.map (·.text) }
  d.ensureComplete
  pure d

/-- What `build` reports on its way. -/
def buildLogs (b : Builder) (w : Workspace) : List LogLine :=
  match b.scan w with
  | .ok (_, none) => [⟨.error, "No Script ID found"⟩]
  | _ => []

def write (b : Builder) (w : Workspace) : BuildOutcome :=
  let logs := b.buildLogs w
  match b.build w with
  | .error f => ⟨.error f, w, "", logs⟩
  | .ok d =>
    match b.config.outputPath with
    | none => ⟨.ok (), w, d.toYaml, logs⟩
    | some p =>
      match d.save w p with
      | .error f => ⟨.error f, w, "", logs⟩
      | .ok w => ⟨.ok (), w, "", logs ++ [⟨.info, "Wrote " ++ p.text⟩]⟩

def run (b : Builder) (w : Workspace) : BuildCommand → BuildOutcome
  | .write => b.write w
  | .printVersion =>
    match b.currentVersion w with
    | .error f => ⟨.error f, w, "", []⟩
    | .ok v => ⟨.ok (), w, v ++ "\n", []⟩
  | .printSavedVersion =>
    match b.savedVersion w with
    | .error f => ⟨.error f, w, "", []⟩
    | .ok none => ⟨.ok (), w, "", []⟩
    | .ok (some v) => ⟨.ok (), w, v ++ "\n", []⟩

end Builder
end PluginRelease
