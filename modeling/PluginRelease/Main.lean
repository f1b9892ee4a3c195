import PluginRelease.Build.Tool
import PluginRelease.Publish.Site
import PluginRelease.Publish.Tool

/-!
The command line. The first argument names the tool; the tool works on the current folder, whose
changed files are written back. What is no text cannot be named here. Repositories are not read,
and sites are not reached.
-/
namespace PluginRelease.Main
open CommandLine

/-- Everything in a folder that was listed. -/
partial def entriesIn (l : Location) (listed : Array IO.FS.DirEntry) :
    IO (List (Location × Entry)) := do
  let found ← listed.toList.mapM fun e => do
    let here := l ++ [Utf8.ofText e.fileName]
    if ← e.path.isDir then
      let below ← entriesIn here (← e.path.readDir)
      pure ((here, Entry.folder) :: below)
    else pure [(here, Entry.file (← IO.FS.readBinFile e.path).toList)]
  pure found.flatten

def load : IO Workspace := do
  let folder ← IO.currentDir
  let here := (Text.splitOn Path.slash (Utf8.ofText folder.toString)).filter (!·.isEmpty)
  let around := (List.range here.length).map fun i => (here.take (i + 1), Entry.folder)
  pure ⟨around ++ (← entriesIn here (← folder.readDir)), here⟩

def save (before after : Workspace) : IO Unit :=
  after.entries.forM fun (l, e) => do
    if let .file content := e then
      let same : Bool := match before.find? l with
        | some (.file old) => old == content
        | _ => false
      unless same do
        let p : Path := ⟨Path.slash :: Text.joinWith [Path.slash] l⟩
        IO.FS.writeBinFile p.text ⟨content.toArray⟩

def stopText : Stop → String
  | .help _ => ""
  | .version => ""
  | .unknownOption => "error: unexpected argument found"
  | .badValue => "error: invalid value"
  | .notText => "error: invalid UTF-8 was detected in an argument"
  | .repeated => "error: an argument cannot be used multiple times"
  | .unneededValue => "error: unexpected value for an argument"

/-- What a run shows besides its output. -/
def remarks (o : Outcome) : List String :=
  o.logs.map (fun l => l.level.name ++ " " ++ l.text) ++
    match o.ending with
    | .done => []
    | .stopped why => [stopText why].filter (!·.isEmpty)
    | .failed cause =>
      ["", "❌ " ++ cause.message, ""] ++
        (cause.help?.toList.flatMap fun h => ["💡 Help: " ++ h, ""])

def tool? (name : String) : Option (Workspace → List Bytes → Outcome) :=
  if name = "vimscriptdef" then some BuildTool.run
  else if name = "vimscriptuploader" then some (PublishTool.run Site.unreachable)
  else none

end PluginRelease.Main

open PluginRelease in
def main (args : List String) : IO UInt32 := do
  match args.head?.bind Main.tool? with
  | none =>
    IO.eprintln "usage: vimscriptdef ... | vimscriptuploader ..."
    pure 2
  | some run =>
    let w ← Main.load
    let o := run w (args.tail.map Utf8.ofText)
    Main.save w o.workspace
    IO.print o.output
    (Main.remarks o).forM (IO.eprintln ·)
    pure o.ending.exitCode.toUInt32
