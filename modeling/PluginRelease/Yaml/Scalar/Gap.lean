import PluginRelease.Yaml.Cursor

/-!
What stands between two words of a scalar: nothing, blanks of one line, or line breaks with
the blanks around them. A single break reads as a space; of more, all but the first are kept.
-/
namespace PluginRelease.Yaml

/-- Texts are kept in reverse. The first break is missing if it was escaped. -/
inductive Gap
  | none
  | blanks (text : List Char)
  | breaks (first : Option Char) (more : List Char)
deriving Repr

namespace Gap

def isNone : Gap → Bool
  | none => true
  | _ => false

def isBreaks : Gap → Bool
  | breaks _ _ => true
  | _ => false

/-- Blanks next to a break do not count. -/
def addBlank (c : Char) : Gap → Gap
  | none => blanks [c]
  | blanks t => blanks (c :: t)
  | g => g

def addBreak (c : Char) : Gap → Gap
  | breaks first more => breaks first (c :: more)
  | _ => breaks (some c) []

/-- What the gap reads as, in reverse. -/
def folded : Gap → List Char
  | none => []
  | blanks t => t
  | breaks (some '\n') [] => [' ']
  | breaks (some '\n') more => more
  | breaks (some c) more => more ++ [c]
  | breaks .none more => more

end Gap
end PluginRelease.Yaml
