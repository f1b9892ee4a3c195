import PluginRelease.Failure
import PluginRelease.Text.Blank
import PluginRelease.Text.Digit
import PluginRelease.Text.Lines

/-!
Repositories found from a folder, and what they list: tags, and the commits since one.
-/
namespace PluginRelease.Repository
open Text

/-- The name of a repository in its folder. -/
def repositoryName : Bytes := Utf8.ofText ".git"

/-- The place that the file `.git` names, if it has the form of one. -/
def linkTarget? (content : Bytes) : Option Path :=
  let start := Utf8.ofText "gitdir: "
  let target := dropEndWhile (fun b => b == 0x0A || b == 0x0D) (content.drop start.length)
  if start.isPrefixOf content && !target.isEmpty then some ⟨target⟩ else none

/-- The repository of a folder or of the nearest one around it, `fuel` folders up. A folder
`.git` without a repository does not end the search. -/
def search (w : Workspace) (folder : Path) : Nat → Location → Except Failure History
  | 0, _ => .error (.git (.repositoryNotFound folder))
  | fuel + 1, l =>
    match w.find? (l ++ [repositoryName]) with
    | some (.repository h) => .ok h
    | some (.file content) =>
      match linkTarget? content with
      | none => .error (.ofText "Failed to open git repository: invalid gitfile format")
      | some target =>
        match ({ w with here := l } : Workspace).entry target with
        | .ok (_, .repository h) => .ok h
        | _ => .error (.git (.repositoryNotFound folder))
    | _ =>
      if l.isEmpty then .error (.git (.repositoryNotFound folder))
      else search w folder fuel l.dropLast

def history (w : Workspace) (folder : Path) : Except Failure History :=
  match w.locate folder with
  | .error e => .error (.ofText ("Failed to open git repository: " ++ e.message))
  | .ok l => search w folder (l.length + 1) l

/-- The lines of what a command prints, without blanks at their ends; empty ones do not count. -/
def filledLines (output : Bytes) : List (List Char) :=
  ((lines (Utf8.decodeLossy output)).map trimEnd).filter (!·.isEmpty)

/-- One tag a line. -/
def tagListing (h : History) : Bytes :=
  h.tagNames.flatMap fun name => Utf8.encode name.toList ++ [0x0A]

def tagLines (h : History) : List String := (filledLines (tagListing h)).map String.ofList

/-- A commit is shown under a short name made from its number. -/
def commitName (n : Nat) : List Char := hexDigits false 7 n

/-- One commit a line, of commits that are numbered down from `n`. -/
def logListing : Nat → List Bytes → Bytes
  | _, [] => []
  | n, subject :: subjects =>
    Utf8.encode (commitName n) ++ 0x20 :: subject ++ 0x0A :: logListing (n - 1) subjects

/-- One line a commit after the tag, newest first. -/
def logLines (h : History) (tag : String) : Except Failure (List (List Char)) :=
  match h.subjectsSince tag with
  | none => .error (.git (.commandFailed ("git log --oneline --no-decorate " ++ tag ++ "..")
      "unknown revision"))
  | some subjects => .ok (filledLines (logListing h.commits.length subjects))

end PluginRelease.Repository
