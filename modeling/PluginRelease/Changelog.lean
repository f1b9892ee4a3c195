import PluginRelease.Text.Blank
import PluginRelease.Digest.Md5
import PluginRelease.Failure

/-!
The version comment: the commits of a one-line log, oldest first, or a text from a template,
closed by the checksum of the archive.
-/
namespace PluginRelease.Changelog
open Text

/-- A log line with a dash in the place of the hash it starts with. -/
def dashed (line : List Char) : List Char :=
  match line with
  | [] => []
  | c :: cs => if isBlank c then c :: cs else '-' :: cs.dropWhile (!isBlank ·)

/-- The lines that `ignore` does not drop, turned from newest to oldest first. -/
def entries (ignore : List Char → Bool) (log : List (List Char)) : List (List Char) :=
  (log.reverse.map dashed).filter (!ignore ·)

/-- Nothing when no line is left. -/
def ofLog? (ignore : List Char → Bool) (log : List (List Char)) : Option (List Char) :=
  if (entries ignore log).isEmpty then none
  else some ((entries ignore log).flatMap (· ++ ['\n']))

/-- Puts `name` for `%s` and a percent sign for `%%`; any other text stays as it is. -/
def fill (name : List Char) : List Char → List Char
  | [] => []
  | '%' :: 's' :: cs => name ++ fill name cs
  | '%' :: '%' :: cs => '%' :: fill name cs
  | c :: cs => c :: fill name cs

def formatHistory (template name : String) : String :=
  String.ofList (fill name.toList template.toList)

/-- A folder can be opened, but not read. -/
def archiveDigest (w : Workspace) (p : Path) : Except Failure String :=
  match w.read p with
  | .ok content => .ok (Md5.hexDigest content)
  | .error .isFolder =>
    .error ((Failure.system .isFolder).addContext ("Failed to read archive " ++ p.text))
  | .error e => .error ((Failure.system e).addContext ("Failed to open archive " ++ p.text))

def checksumLine (w : Workspace) (p : Path) : Except Failure String := do
  let digest ← archiveDigest w p
  pure ("MD5 checksum: " ++ digest)

end PluginRelease.Changelog
