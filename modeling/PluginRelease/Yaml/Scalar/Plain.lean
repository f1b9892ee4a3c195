import PluginRelease.Yaml.Fault
import PluginRelease.Yaml.Scalar.Gap

/-!
Scalars without quotes. They end before a comment, at a colon with a gap after it, at the
marks of a flow collection inside one, and before a line that is indented too little.
-/
namespace PluginRelease.Yaml.Plain

/-- Whether text after a gap belongs to something else. -/
def endsAfterGap (inFlow : Bool) (indent : Int) (s : List Char) (p : Place) : Bool :=
  (!inFlow && decide ((p.column : Int) < indent)) || (p.column == 0 && atDocumentMark s) ||
    s.head? == some '#'

/-- In a flow collection a colon may not stand before its marks. -/
def colonClashes : List Char → Bool
  | ':' :: c :: _ => isFlowMark c || c == '?'
  | _ => false

def endsHere (inFlow : Bool) : List Char → Bool
  | [] => true
  | c :: cs => (c == ':' && atGap cs) || (inFlow && isFlowMark c)

structure Reading where
  text : List Char
  /-- Whether a line break follows the text. -/
  endsLine : Bool
  cursor : Cursor
deriving Repr

/-- `done` holds what was read so far, in reverse. -/
def read (inFlow : Bool) (indent : Int) (done : List Char) (gap : Gap) :
    List Char → Place → Except Malformation Reading
  | [], p => .ok ⟨done.reverse, gap.isBreaks, ⟨[], p⟩⟩
  | '\r' :: '\n' :: cs, p => read inFlow indent done (gap.addBreak '\n') cs (p.nextLine 2)
  | c :: cs, p =>
    if isBreak c then read inFlow indent done (gap.addBreak (keptBreak c)) cs (p.nextLine 1)
    else if isBlank c then
      if gap.isBreaks && c == '\t' && decide ((p.column : Int) < indent) then .error .tabInPlain
      else read inFlow indent done (gap.addBlank c) cs p.next
    else if !gap.isNone && endsAfterGap inFlow indent (c :: cs) p then
      .ok ⟨done.reverse, gap.isBreaks, ⟨c :: cs, p⟩⟩
    else if inFlow && colonClashes (c :: cs) then .error .colonInFlow
    else if endsHere inFlow (c :: cs) then .ok ⟨done.reverse, gap.isBreaks, ⟨c :: cs, p⟩⟩
    else read inFlow indent (c :: (gap.folded ++ done)) .none cs p.next

end PluginRelease.Yaml.Plain
