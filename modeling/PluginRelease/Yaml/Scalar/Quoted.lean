import PluginRelease.Yaml.Fault
import PluginRelease.Yaml.Scalar.Gap
import PluginRelease.Text.Digit

/-!
Scalars in single or double quotes. Inside single quotes only the quote is special and is
written twice; double quotes know escapes.
-/
namespace PluginRelease.Yaml.Quoted
open Text

inductive Style
  | single
  | double
deriving DecidableEq, Repr

def Style.mark : Style → Char
  | single => '\''
  | double => '"'

/-- Where reading stands: in the text, after a backslash, or before the last `left + 1`
digits of a character's number. -/
inductive Mode
  | text
  | escape
  | digits (left value : Nat)
deriving Repr

/-- The character that an escape of one letter stands for. -/
def escaped? (c : Char) : Option Char :=
  if c == '0' then some (Char.ofNat 0)
  else if c == 'a' then some (Char.ofNat 7)
  else if c == 'b' then some (Char.ofNat 8)
  else if c == 't' || c == '\t' then some '\t'
  else if c == 'n' then some '\n'
  else if c == 'v' then some (Char.ofNat 11)
  else if c == 'f' then some (Char.ofNat 12)
  else if c == 'r' then some '\r'
  else if c == 'e' then some (Char.ofNat 27)
  else if c == ' ' || c == '"' || c == '/' || c == '\\' then some c
  else if c == 'N' then some nextLine
  else if c == '_' then some (Char.ofNat 0xA0)
  else if c == 'L' then some lineSeparator
  else if c == 'P' then some paragraphSeparator
  else none

/-- How many digits follow the letter of a numbered escape. -/
def escapeWidth? (c : Char) : Option Nat :=
  if c == 'x' then some 2
  else if c == 'u' then some 4
  else if c == 'U' then some 8
  else none

def ofNumber? (n : Nat) : Option Char :=
  if n.isValidChar then some (Char.ofNat n) else none

/-- After the opening quote; `done` holds what was read so far, in reverse. -/
def read (style : Style) (mode : Mode) (done : List Char) (gap : Gap) :
    List Char → Place → Except Malformation (List Char × Cursor)
  | [], _ => .error .quoteOpen
  | '\r' :: '\n' :: cs, p =>
    match mode with
    | .text => read style .text done (gap.addBreak '\n') cs (p.nextLine 2)
    | .escape => read style .text done (.breaks none []) cs (p.nextLine 2)
    | .digits _ _ => .error .escapeDigits
  | c :: cs, p =>
    match mode with
    | .escape =>
      if isBreak c then read style .text done (.breaks none []) cs (p.nextLine 1)
      else match escaped? c, escapeWidth? c with
        | some e, _ => read style .text (e :: done) .none cs p.next
        | none, some n => read style (.digits (n - 1) 0) done .none cs p.next
        | none, none => .error .unknownEscape
    | .digits left value =>
      match hexDigitValue? c with
      | none => .error .escapeDigits
      | some d =>
        if left = 0 then
          match ofNumber? (16 * value + d) with
          | some e => read style .text (e :: done) .none cs p.next
          | none => .error .escapeCode
        else read style (.digits (left - 1) (16 * value + d)) done .none cs p.next
    | .text =>
      if isBreak c then read style .text done (gap.addBreak (keptBreak c)) cs (p.nextLine 1)
      else if isBlank c then read style .text done (gap.addBlank c) cs p.next
      else if gap.isBreaks && p.column == 0 && atDocumentMark (c :: cs) then .error .quoteBroken
      else if c == style.mark then
        match style, cs with
        | .single, '\'' :: cs =>
          read style .text ('\'' :: (gap.folded ++ done)) .none cs (p.skip 2)
        | _, _ => .ok ((gap.folded ++ done).reverse, ⟨cs, p.next⟩)
      else if style == .double && c == '\\' then
        read style .escape (gap.folded ++ done) .none cs p.next
      else read style .text (c :: (gap.folded ++ done)) .none cs p.next

end PluginRelease.Yaml.Quoted
