import PluginRelease.Workspace.Path
import PluginRelease.Workspace.History

/-!
A tree of files and folders with a current folder. A path is walked name by name, and each
step needs a folder to stand in; `..` leaves it again.
-/
namespace PluginRelease

/-- What the system reports about a path. -/
inductive SystemFault
  | notFound
  | notFolder
  | isFolder
  | nameTooLong
  | nulInPath
  | notText
  | other (message : String)
deriving DecidableEq, Repr

def SystemFault.message : SystemFault → String
  | notFound => "No such file or directory (os error 2)"
  | notFolder => "Not a directory (os error 20)"
  | isFolder => "Is a directory (os error 21)"
  | nameTooLong => "File name too long (os error 36)"
  | nulInPath => "file name contained an unexpected NUL byte"
  | notText => "stream did not contain valid UTF-8"
  | other m => m

/-- The names that lead from the root to a place. -/
abbrev Location := List Bytes

inductive Entry
  | file (content : Bytes)
  | folder
  | repository (history : History)
deriving Repr, Inhabited

def Entry.isFile : Entry → Bool
  | file _ => true
  | _ => false

structure Workspace where
  entries : List (Location × Entry)
  here : Location
deriving Repr, Inhabited

namespace Workspace
open Text

/-- Nothing but an empty current folder. -/
def empty : Workspace :=
  let here := ["tmp", "work"].map Utf8.ofText
  ⟨[(here.take 1, .folder), (here, .folder)], here⟩

def find? (w : Workspace) (l : Location) : Option Entry :=
  if l.isEmpty then some .folder else (w.entries.find? (·.1 == l)).map (·.2)

def insert (w : Workspace) (l : Location) (e : Entry) : Workspace :=
  { w with entries := (l, e) :: w.entries.filter (·.1 != l) }

/-- Removes a place with all that lies below it. -/
def erase (w : Workspace) (l : Location) : Workspace :=
  { w with entries := w.entries.filter fun p => !l.isPrefixOf p.1 }

@[simp] theorem here_insert (w : Workspace) (l : Location) (e : Entry) :
    (w.insert l e).here = w.here := rfl

theorem find?_insert_self (w : Workspace) {l : Location} (e : Entry) (h : l ≠ []) :
    (w.insert l e).find? l = some e := by
  simp [find?, insert, h]

theorem find?_insert_of_ne (w : Workspace) {k l : Location} (e : Entry) (h : k ≠ l) :
    (w.insert l e).find? k = w.find? k := by
  have hl : ¬ l = k := fun x => h x.symm
  simp only [find?, insert]
  split
  · rfl
  · rw [List.find?_cons_of_neg (by simpa using hl), List.find?_filter]
    congr 2
    funext a
    by_cases ha : a.1 = k
    · simp [ha, h]
    · simp [ha]

/-- The place must be a folder to be stood in. -/
def stand (w : Workspace) (l : Location) : Except SystemFault Unit :=
  match w.find? l with
  | none => .error .notFound
  | some (.file _) => .error .notFolder
  | some _ => .ok ()

def stepInto (w : Workspace) (l : Location) (piece : Bytes) : Except SystemFault Location := do
  w.stand l
  if 255 < piece.length then .error .nameTooLong
  else if Path.isSilent piece then pure l
  else if piece = [Path.point, Path.point] then pure l.dropLast
  else pure (l ++ [piece])

/-- A final slash names the folder before it. -/
def walk (w : Workspace) (l : Location) : List Bytes → Except SystemFault Location
  | [] => pure l
  | piece :: rest => do walk w (← w.stepInto l piece) rest

/-- Where a path leads; the place itself need not exist. -/
def locate (w : Workspace) (p : Path) : Except SystemFault Location :=
  if p.bytes.contains 0 then .error .nulInPath
  else if p.bytes.isEmpty then .error .notFound
  else if 4095 < p.bytes.length then .error .nameTooLong
  else if p.isAbsolute then w.walk [] (splitOn Path.slash p.bytes).tail
  else w.walk w.here (splitOn Path.slash p.bytes)

def entry (w : Workspace) (p : Path) : Except SystemFault (Location × Entry) := do
  let l ← w.locate p
  match w.find? l with
  | none => .error .notFound
  | some e => pure (l, e)

def isFile (w : Workspace) (p : Path) : Bool :=
  match w.entry p with
  | .ok (_, .file _) => true
  | _ => false

def isFolder (w : Workspace) (p : Path) : Bool :=
  match w.entry p with
  | .ok (_, .file _) => false
  | .ok _ => true
  | .error _ => false

def exists? (w : Workspace) (p : Path) : Bool := (w.entry p).isOk

def read (w : Workspace) (p : Path) : Except SystemFault Bytes := do
  match ← w.entry p with
  | (_, .file content) => pure content
  | _ => .error .isFolder

def readText (w : Workspace) (p : Path) : Except SystemFault String := do
  match Utf8.decode? (← w.read p) with
  | some s => pure (String.ofList s)
  | none => .error .notText

/-- A path that ends in a slash cannot name a file to write. -/
def write (w : Workspace) (p : Path) (content : Bytes) : Except SystemFault Workspace := do
  if p.bytes.getLast? == some Path.slash then
    let folder := dropEndWhile (· == Path.slash) p.bytes
    if !folder.isEmpty then let _ ← w.locate ⟨folder⟩
    .error .isFolder
  else
    let l ← w.locate p
    match w.find? l with
    | none | some (.file _) => pure (w.insert l (.file content))
    | some _ => .error .isFolder

end Workspace
end PluginRelease
