import PluginRelease.Yaml.Fault
import PluginRelease.Yaml.Cursor
import PluginRelease.Text.Digit
import PluginRelease.Text.Utf8

/-!
Tags as they are written, anchors, and directives.
-/
namespace PluginRelease.Yaml

/-- A tag before its handle is looked up. An empty handle marks a whole tag. -/
structure WrittenTag where
  handle : List Char
  suffix : List Char
deriving DecidableEq, Repr

namespace WrittenTag
open Text

/-- Characters of a tag; the marks `,`, `[` and `]` only where the tag is in angles. -/
def isTagCharacter (inAngles : Bool) (c : Char) : Bool :=
  isWordCharacter c || (";/?:@&=+$.%!~*'()".toList.contains c) ||
    (inAngles && (c == ',' || c == '[' || c == ']'))

/-- How many bytes the character takes that starts with this one. -/
def escapeWidth? (b : Nat) : Option Nat :=
  if b < 0x80 then some 1
  else if b / 32 = 6 then some 2
  else if b / 16 = 14 then some 3
  else if b / 8 = 30 then some 4
  else none

/-- Bytes of the character whose escapes are being read. -/
structure Pending where
  bytes : Bytes
  missing : Nat

/-- The characters of a tag with `%` escapes read; `done` is in reverse. -/
def readText (inAngles : Bool) (done : List Char) (pending : Pending) :
    List Char → Place → Except Malformation (List Char × Cursor)
  | '%' :: a :: b :: cs, p =>
    match hexDigitValue? a, hexDigitValue? b with
    | some x, some y =>
      let octet := 16 * x + y
      if pending.missing = 0 then
        match escapeWidth? octet with
        | none => .error .tagEscape
        | some 1 => readText inAngles (Char.ofNat octet :: done) ⟨[], 0⟩ cs (p.skip 3)
        | some n => readText inAngles done ⟨[octet.toUInt8], n - 1⟩ cs (p.skip 3)
      else if octet / 64 ≠ 2 then .error .tagEscape
      else
        let bytes := pending.bytes ++ [octet.toUInt8]
        if pending.missing = 1 then
          readText inAngles ((Utf8.decodeLossy bytes).reverse ++ done) ⟨[], 0⟩ cs (p.skip 3)
        else readText inAngles done ⟨bytes, pending.missing - 1⟩ cs (p.skip 3)
    | _, _ => .error .tagEscape
  | c :: cs, p =>
    if pending.missing ≠ 0 || c == '%' then .error .tagEscape
    else if isTagCharacter inAngles c then readText inAngles (c :: done) pending cs p.next
    else .ok (done.reverse, ⟨c :: cs, p⟩)
  | [], p => if pending.missing ≠ 0 then .error .tagEscape else .ok (done.reverse, ⟨[], p⟩)

/-- From the mark on: `!`, word characters, and perhaps another `!`. -/
def readHandle (inDirective : Bool) (s : List Char) (p : Place) :
    Except Malformation (List Char × Cursor) :=
  match s with
  | '!' :: cs =>
    let word := cs.takeWhile isWordCharacter
    let r := cs.dropWhile isWordCharacter
    match r with
    | '!' :: r => .ok ('!' :: word ++ ['!'], ⟨r, p.skip (word.length + 2)⟩)
    | _ =>
      if inDirective && !word.isEmpty then .error .tagHandle
      else .ok ('!' :: word, ⟨r, p.skip (word.length + 1)⟩)
  | _ => .error .tagHandle

def isNamedHandle (h : List Char) : Bool := h.length > 1 && h.getLast? == some '!'

def read (inFlow : Bool) (s : List Char) (p : Place) :
    Except Malformation (WrittenTag × Cursor) := do
  let (tag, c) ← match s with
    | '!' :: '<' :: cs =>
      let (text, c) ← readText true [] ⟨[], 0⟩ cs (p.skip 2)
      if text.isEmpty then .error .tagText
      else match c.rest with
        | '>' :: cs => pure (WrittenTag.mk [] text, Cursor.mk cs c.place.next)
        | _ => .error .tagEnd
    | _ =>
      let (handle, c) ← readHandle false s p
      if isNamedHandle handle then
        let (text, c) ← readText false [] ⟨[], 0⟩ c.rest c.place
        if text.isEmpty then .error .tagText else pure (WrittenTag.mk handle text, c)
      else
        let (text, c) ← readText false handle.tail.reverse ⟨[], 0⟩ c.rest c.place
        if text.isEmpty then pure (WrittenTag.mk [] ['!'], c)
        else pure (WrittenTag.mk ['!'] text, c)
  if atGap c.rest || (inFlow && c.rest.head? == some ',') then pure (tag, c) else .error .tagEnd

end WrittenTag

/-- The name after `&` or `*`. -/
def readAnchor (s : List Char) (p : Place) : Except Malformation (List Char × Cursor) :=
  let name := s.takeWhile isWordCharacter
  let r := s.dropWhile isWordCharacter
  let ends := atGap r || (r.head?.any ("?:,]\x7d%@`".toList.contains ·))
  if name.isEmpty || !ends then .error .anchorName
  else .ok (name, ⟨r, p.skip name.length⟩)

inductive Directive
  | version (major minor : Nat)
  | tag (handle expansion : List Char)
deriving DecidableEq, Repr

namespace Directive
open Text

private def readNumber (s : List Char) (p : Place) : Except Malformation (Nat × Cursor) :=
  let digits := s.takeWhile Char.isDigit
  if digits.isEmpty then .error .versionNumber
  else if 9 < digits.length then .error .versionTooLong
  else .ok (decimalValue digits, ⟨s.drop digits.length, p.skip digits.length⟩)

/-- After the percent sign, up to the next line. -/
def read (s : List Char) (p : Place) : Except Malformation (Directive × Cursor) := do
  let name := s.takeWhile isWordCharacter
  let r := s.dropWhile isWordCharacter
  if name.isEmpty || !atGap r then .error .directiveName
  else
    let c := Cursor.skipWhile isBlank r (p.skip name.length)
    let (d, c) ←
      if name = "YAML".toList then do
        let (major, c) ← readNumber c.rest c.place
        match c.rest with
        | '.' :: cs =>
          let (minor, c) ← readNumber cs c.place.next
          pure (version major minor, c)
        | _ => .error .versionNumber
      else if name = "TAG".toList then do
        let (handle, c) ← WrittenTag.readHandle true c.rest c.place
        if !(c.rest.head?.any isBlank) then .error .tagSpace
        else
          let c := Cursor.skipWhile isBlank c.rest c.place
          let (text, c) ← WrittenTag.readText true [] ⟨[], 0⟩ c.rest c.place
          if text.isEmpty then .error .tagText
          else if !atGap c.rest then .error .tagEnd
          else pure (tag handle text, c)
      else .error .unknownDirective
    let c := Cursor.skipWhile isBlank c.rest c.place
    let c := if c.rest.head? == some '#' then
      Cursor.skipWhile (!isBreak ·) c.rest c.place else c
    if atLineEnd c.rest then pure (d, Cursor.skipBreak c.rest c.place) else .error .afterHeader

end Directive
end PluginRelease.Yaml
