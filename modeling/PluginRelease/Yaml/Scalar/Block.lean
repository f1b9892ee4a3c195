import PluginRelease.Yaml.Fault
import PluginRelease.Yaml.Cursor
import PluginRelease.Text.Digit

/-!
Block scalars: the lines below a header, without their common margin. A literal one keeps
its line breaks, a folded one reads single breaks between its lines as spaces.
-/
namespace PluginRelease.Yaml.Block
open Text

/-- What becomes of the breaks at the end. -/
inductive Chomping
  | strip
  | clip
  | keep
deriving DecidableEq, Repr

structure Header where
  chomping : Chomping
  /-- How much deeper than its parent the text stands, if the header says so. -/
  depth : Option Nat
deriving Repr

private def chomping? : List Char → Option Chomping
  | '-' :: _ => some .strip
  | '+' :: _ => some .keep
  | _ => none

private def depth? (s : List Char) : Option Nat :=
  match s with
  | [] => none
  | c :: _ => if c.isDigit then some (digitValue c) else none

/-- The indicators after `|` or `>`, in either order. -/
def readHeader (s : List Char) (p : Place) : Except Malformation (Header × Cursor) :=
  let finish (chomping : Chomping) (depth : Option Nat) (s : List Char) (p : Place) :
      Except Malformation (Header × Cursor) :=
    if depth = some 0 then .error .zeroIndent else .ok (⟨chomping, depth⟩, ⟨s, p⟩)
  match chomping? s with
  | some ch =>
    match depth? s.tail with
    | some d => finish ch (some d) (s.drop 2) (p.skip 2)
    | none => finish ch none s.tail p.next
  | none =>
    match depth? s with
    | some d =>
      match chomping? s.tail with
      | some ch => finish ch (some d) (s.drop 2) (p.skip 2)
      | none => finish .clip (some d) s.tail p.next
    | none => finish .clip none s p

/-- Past blanks and a comment to the next line. -/
def finishLine (s : List Char) (p : Place) : Except Malformation Cursor :=
  let c := Cursor.skipWhile isBlank s p
  let c := if c.rest.head? == some '#' then Cursor.skipWhile (!isBreak ·) c.rest c.place else c
  if atLineEnd c.rest then .ok (Cursor.skipBreak c.rest c.place) else .error .afterHeader

structure Margin where
  /-- Line breaks before the first text, in reverse. -/
  breaks : List Char
  widest : Nat
  cursor : Cursor
deriving Repr

/-- Blank lines and spaces before the first text of a scalar whose depth is not given. -/
def readMargin (breaks : List Char) (widest : Nat) :
    List Char → Place → Except Malformation Margin
  | [], p => .ok ⟨breaks, widest, ⟨[], p⟩⟩
  | '\r' :: '\n' :: cs, p => readMargin ('\n' :: breaks) widest cs (p.nextLine 2)
  | c :: cs, p =>
    if c == ' ' then readMargin breaks (max widest (p.column + 1)) cs p.next
    else if c == '\t' then .error .tabIndent
    else if isBreak c then readMargin (keptBreak c :: breaks) widest cs (p.nextLine 1)
    else .ok ⟨breaks, widest, ⟨c :: cs, p⟩⟩

/-- What was read of the text, in reverse: the lines, the break that ended the last one, and
the breaks of blank lines since then. -/
structure Lines where
  done : List Char
  ending : Option Char
  blank : List Char
  /-- Whether the last line starts with a blank. -/
  blankStart : Bool
  inLine : Bool
deriving Repr

namespace Lines

def ended (l : Lines) : List Char :=
  match l.ending with
  | some c => c :: l.done
  | none => l.done

/-- Starts a line with `c`. In a folded scalar the break between two lines that start with
no blank is a space, and none at all if blank lines follow it. -/
def startLine (literal : Bool) (c : Char) (l : Lines) : Lines :=
  let before :=
    if !literal && l.ending == some '\n' && !l.blankStart && !isBlank c then
      if l.blank.isEmpty then ' ' :: l.done else l.done
    else l.ended
  ⟨c :: (l.blank ++ before), none, [], isBlank c, true⟩

def text (chomping : Chomping) (l : Lines) : List Char :=
  match chomping with
  | .strip => l.done.reverse
  | .clip => l.ended.reverse
  | .keep => (l.blank ++ l.ended).reverse

end Lines

/-- The lines that stand at the column `indent` or behind it. -/
def readLines (literal : Bool) (indent : Nat) (l : Lines) :
    List Char → Place → Except Malformation (Lines × Cursor)
  | [], p => .ok (l, ⟨[], p⟩)
  | '\r' :: '\n' :: cs, p =>
    let l := if l.inLine then { l with ending := some '\n', inLine := false }
      else { l with blank := '\n' :: l.blank }
    readLines literal indent l cs (p.nextLine 2)
  | c :: cs, p =>
    if isBreak c then
      let l := if l.inLine then { l with ending := some (keptBreak c), inLine := false }
        else { l with blank := keptBreak c :: l.blank }
      readLines literal indent l cs (p.nextLine 1)
    else if l.inLine then readLines literal indent { l with done := c :: l.done } cs p.next
    else if p.column < indent && c == ' ' then readLines literal indent l cs p.next
    else if p.column < indent && c == '\t' then .error .tabIndent
    else if p.column == indent then readLines literal indent (l.startLine literal c) cs p.next
    else .ok (l, ⟨c :: cs, p⟩)

/-- After `|` or `>`, below a parent at the column `parent`. -/
def read (literal : Bool) (parent : Int) (s : List Char) (p : Place) :
    Except Malformation (List Char × Cursor) := do
  let (header, c) ← readHeader s p
  let c ← finishLine c.rest c.place
  match header.depth with
  | some d =>
    let indent := parent.toNat + d
    let (l, c) ← readLines literal indent ⟨[], none, [], false, false⟩ c.rest c.place
    pure (l.text header.chomping, c)
  | none =>
    let m ← readMargin [] c.place.column c.rest c.place
    let indent := max (max m.widest (parent + 1).toNat) 1
    let (l, c) ← readLines literal indent ⟨[], none, m.breaks, false, false⟩ m.cursor.rest
      m.cursor.place
    pure (l.text header.chomping, c)

end PluginRelease.Yaml.Block
