import PluginRelease.Text.Split
import PluginRelease.Text.Utf8

/-!
Paths as they are given to the system: bytes, which need not be those of a text. Joining keeps
the bytes of both parts; a final slash, an empty piece and a `.` after the first piece name
nothing.
-/
namespace PluginRelease

structure Path where
  bytes : Bytes
deriving DecidableEq, Repr, Inhabited

namespace Path
open Text

def ofText (s : String) : Path := ⟨Utf8.ofText s⟩

instance : Coe String Path := ⟨ofText⟩

/-- The path as it is shown. Where it is no text, this is not the way back to it. -/
def text (p : Path) : String := Utf8.shown p.bytes

/-- The byte between the names of a path. -/
abbrev slash : UInt8 := 0x2F

/-- The byte before an extension. -/
abbrev point : UInt8 := 0x2E

def isAbsolute (p : Path) : Bool := p.bytes.head? == some slash

/-- An absolute path stands for itself wherever it is joined. -/
def join (base p : Path) : Path :=
  if p.isAbsolute then p
  else match base.bytes.getLast? with
    | none => p
    | some b => if b = slash then ⟨base.bytes ++ p.bytes⟩ else ⟨base.bytes ++ slash :: p.bytes⟩

/-- Where a path starts: at the root, at a written `.`, or at its first name. -/
inductive Start
  | root
  | dot
  | name

/-- The start of a path and the pieces after it. -/
def parts (p : Path) : Start × List Bytes :=
  match splitOn slash p.bytes with
  | [] => (.name, [])
  | [] :: [] => (.name, [])
  | [] :: ps => (.root, ps)
  | first :: ps => if first = [point] then (.dot, ps) else (.name, first :: ps)

/-- Pieces that name nothing. -/
def isSilent (piece : Bytes) : Bool := piece.isEmpty || piece == [point]

def named (p : Path) : List Bytes := dropEndWhile isSilent p.parts.2

def assemble (start : Start) (pieces : List Bytes) : Path :=
  let s := joinWith [slash] pieces
  match start with
  | .root => ⟨slash :: s⟩
  | .name => ⟨s⟩
  | .dot => if pieces.isEmpty then ⟨[point]⟩ else ⟨point :: slash :: s⟩

/-- The path without its last name; the root and the empty path have no parent. -/
def parent? (p : Path) : Option Path :=
  match p.named, p.parts.1 with
  | [], .dot => some ⟨[]⟩
  | [], _ => none
  | ps, start => some (assemble start (dropEndWhile isSilent ps.dropLast))

/-- The last name; a path that ends in `..` has none. -/
def fileName? (p : Path) : Option Bytes :=
  p.named.getLast?.filter (· ≠ [point, point])

/-- The part of a name before its last dot, and the part after it. A dot that starts the
name does not count. -/
def splitName (name : Bytes) : Bytes × Option Bytes :=
  let stem := (dropEndWhile (· ≠ point) name).dropLast
  if stem.isEmpty then (name, none)
  else (stem, some (name.drop (stem.length + 1)))

def stem? (p : Path) : Option Bytes := p.fileName?.map fun n => (splitName n).1

def extension? (p : Path) : Option Bytes := p.fileName?.bind fun n => (splitName n).2

end Path
end PluginRelease
