import PluginRelease.ConfigFile
import PluginRelease.Text.Lines

/-!
Options of the descriptor builder: from a file, from the command line on top of it, and from a
recipe, whose products lie beside it.
-/
namespace PluginRelease

inductive ArchiveFormat
  | zip
  | vba
deriving DecidableEq, Repr

def ArchiveFormat.extension : ArchiveFormat → String
  | zip => "zip"
  | vba => "vba"

structure BuildConfig where
  dir : Path
  archive : Option Path
  format : ArchiveFormat
  name : Option String
  /-- Where the descriptor goes; nowhere or `-` is standard output. -/
  outfile : Option Path
  files : List Path
  recipe : Option Path
  ignorePattern : Option String
  historyTemplate : Option String
deriving DecidableEq, Repr

/-- Options of the command line; those given replace what a file says. -/
structure BuildOverrides where
  dir : Option Path
  archive : Option Path
  format : Option ArchiveFormat
  name : Option String
  outfile : Option Path
  recipe : Option Path
  files : List Path
deriving DecidableEq, Repr

def BuildOverrides.empty : BuildOverrides := ⟨none, none, none, none, none, none, []⟩

namespace BuildConfig
open Yaml ConfigFile

def default : BuildConfig := ⟨".", none, .vba, none, none, [], none, none, none⟩

def formats : List (String × ArchiveFormat) := [("zip", .zip), ("vba", .vba)]

def field (name : String) :
    Option (Nat → String → Nat → BuildConfig → Decode.Decoder BuildConfig) :=
  match name with
  | "dir" => some fun _ path _ c => do pure { c with dir := ← pathField path }
  | "archive" => some fun _ path _ c => do
    pure { c with archive := ← Decode.optional (pathField path) }
  | "format" => some fun _ path _ c => do pure { c with format := ← Decode.choice formats path }
  | "name" => some fun _ path _ c => do pure { c with name := ← textField path }
  | "outfile" => some fun _ path _ c => do
    pure { c with outfile := ← Decode.optional (pathField path) }
  | "files" => some fun fuel path depth c => do
    pure { c with files := ← Decode.list (fun path _ => pathField path) fuel path depth }
  | "ignore_git_messages_rx" => some fun _ path _ c => do
    pure { c with ignorePattern := ← textField path }
  | "history_fmt" => some fun _ path _ c => do
    pure { c with historyTemplate := ← textField path }
  | _ => none

def shape : Decode.Shape BuildConfig := ⟨"struct DefConfig", default, field⟩

def load (w : Workspace) : Option Path → Except Failure BuildConfig
  | none => .ok default
  | some p => ConfigFile.load shape w p

/-- The lines of a recipe that name a file. -/
def recipeFiles (content : String) : List Path :=
  (((Text.lines content.toList).map Text.trimEnd).filter (!·.isEmpty)).map fun l =>
    .ofText (String.ofList l)

/-- Files and name come from the recipe, and so do archive and output file unless given. The name is
text, also where the file name of the recipe is none. -/
def expandRecipe (c : BuildConfig) (w : Workspace) (recipe : Path) :
    Except Failure BuildConfig :=
  match w.readText recipe with
  | .error _ => .error (.config (.missingFile "Recipe" recipe))
  | .ok content =>
    match recipe.stem? with
    | none => .error (.config (.invalidArgument
        ("Cannot derive a plugin name from recipe " ++ recipe.text)))
    | some stem =>
      let name := Utf8.shown stem
      let beside (extension : String) : Path :=
        (recipe.parent?.getD ⟨[]⟩).join (.ofText (name ++ "." ++ extension))
      .ok { c with
        files := recipeFiles content
        name := some name
        archive := c.archive.or (some (beside c.format.extension))
        outfile := c.outfile.or (some (beside "yml")) }

def override (c : BuildConfig) (o : BuildOverrides) : BuildConfig :=
  { c with
    dir := o.dir.getD c.dir
    archive := o.archive.or c.archive
    format := o.format.getD c.format
    name := o.name.or c.name
    outfile := o.outfile.or c.outfile
    recipe := o.recipe.or c.recipe }

def apply (c : BuildConfig) (w : Workspace) (o : BuildOverrides) : Except Failure BuildConfig :=
  match o.dir.filter (!w.isFolder ·) with
  | some dir => .error (.config (.folderNotFound dir))
  | none =>
    let c := c.override o
    match c.recipe with
    | some recipe => c.expandRecipe w recipe
    | none => .ok (if o.files.isEmpty then c else { c with files := o.files })

/-- A path seen from the working directory of the build. -/
def resolve (c : BuildConfig) (p : Path) : Path := c.dir.join p

def outputPath (c : BuildConfig) : Option Path :=
  (c.outfile.filter (· ≠ ("-" : Path))).map c.resolve

def archivePath (c : BuildConfig) : Path := (c.archive.map c.resolve).getD ⟨[]⟩

/-- What every command needs. -/
def validate (c : BuildConfig) (w : Workspace) : Except Failure Unit :=
  if !w.isFolder c.dir then .error (.config (.folderNotFound c.dir))
  else if c.name.all (· == "") then .error (.config (.missingOption "name"))
  else if c.files.isEmpty then .error (.config (.missingOption "files"))
  else if c.archive.isNone then .error (.config (.missingOption "archive"))
  else if !w.isFile c.archivePath then
    .error (.config (.missingFile "Distribution archive" c.archivePath))
  else .ok ()

end BuildConfig
end PluginRelease
