import PluginRelease.Text.Digit
import PluginRelease.Text.Lines
import PluginRelease.Failure

/-!
Marker lines in plugin sources. One line carries the script ID that the site assigned, the
other the version in hundredths:

    " GetLatestVimScripts: 1234 1 :AutoInstall: myplugin.vim
    let g:loaded_myplugin = 105
-/
namespace PluginRelease.Marker
open Text

def idStart : List Char := "\" GetLatestVimScripts: ".toList

def autoInstall : List Char := ":AutoInstall:".toList

def dropStart? (start s : List Char) : Option (List Char) :=
  if start.isPrefixOf s then some (s.drop start.length) else none

theorem eq_append_of_dropStart? {start s r : List Char} (h : dropStart? start s = some r) :
    s = start ++ r := by
  unfold dropStart? at h
  split at h
  · next hs =>
    obtain ⟨t, rfl⟩ := List.isPrefixOf_iff_prefix.mp hs
    simp only [List.drop_left, Option.some.injEq] at h
    rw [h]
  · simp at h

def dropEnd? (tail s : List Char) : Option (List Char) :=
  (dropStart? tail.reverse s.reverse).map List.reverse

/-- One or more characters that satisfy `p`, and the rest. -/
def takeRun? (p : Char → Bool) (s : List Char) : Option (List Char × List Char) :=
  if (s.takeWhile p).isEmpty then none else some (s.takeWhile p, s.dropWhile p)

def isSpace (c : Char) : Bool := c == ' '

def isSpaces (s : List Char) : Bool := !s.isEmpty && s.all isSpace

/-- What may stand between the digits and the file name: spaces, or spaces around the
install mark. -/
def isGap (s : List Char) : Bool :=
  match dropStart? autoInstall (s.dropWhile isSpace) with
  | none => isSpaces s
  | some r => s.head? == some ' ' && isSpaces r

/-- An ID of zeros only does not count. -/
def countsAsId (digits : List Char) : Bool := digits.any fun c => '1' ≤ c && c ≤ '9'

def scriptId? (name : String) (line : String) : Option String := do
  let r ← dropStart? idStart (chomp line.toList)
  let (id, r) ← takeRun? isDecimalDigit r
  let (_, r) ← takeRun? isSpace r
  let (_, r) ← takeRun? isDecimalDigit r
  let gap ← dropEnd? (name.toList ++ ".vim".toList) r
  if isGap gap && countsAsId id then some (String.ofList id) else none

/-- Hundredths as major and minor number. -/
def formatVersion (raw : Nat) : String :=
  let minor := Nat.repr (raw % 100)
  Nat.repr (raw / 100) ++ "." ++ (if raw % 100 < 10 then "0" ++ minor else minor)

def versionLimit : Nat := Nat.pow 2 64

def version? (name : String) (line : String) : Option String := do
  let r ← dropStart? "let ".toList (chomp line.toList)
  let r := (dropStart? "g:".toList r).getD r
  let digits ← dropStart? ("loaded_".toList ++ name.toList ++ " = ".toList) r
  if !digits.isEmpty && digits.all Char.isDigit && decimalValue digits < versionLimit then
    some (formatVersion (decimalValue digits))
  else none

/-- The lines of a source file; broken bytes spoil no more than their own line. -/
def sourceLines (w : Workspace) (p : Path) : Except Failure (List String) := do
  let bytes ← Failure.ofSystem ("Failed to read source file " ++ p.text) (w.read p)
  pure ((lines (Utf8.decodeLossy bytes)).map String.ofList)

/-- The first line that `parse` accepts, file by file; later files are not read. -/
def findFirst (w : Workspace) (parse : String → Option String) :
    List Path → Except Failure (Option String)
  | [] => pure none
  | p :: ps => do
    match (← sourceLines w p).findSome? parse with
    | some found => pure (some found)
    | none => findFirst w parse ps

def findScriptId (w : Workspace) (name : String) (files : List Path) :
    Except Failure (Option String) :=
  findFirst w (scriptId? name) files

def findVersion (w : Workspace) (name : String) (files : List Path) :
    Except Failure (Option String) :=
  findFirst w (version? name) files

end PluginRelease.Marker
