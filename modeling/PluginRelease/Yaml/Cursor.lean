import PluginRelease.Yaml.Character

/-!
A place in a text and the characters from there on.
-/
namespace PluginRelease.Yaml

structure Place where
  index : Nat
  line : Nat
  column : Nat
deriving DecidableEq, Repr

namespace Place

def start : Place := ⟨0, 0, 0⟩

def next (p : Place) : Place := ⟨p.index + 1, p.line, p.column + 1⟩

def skip (n : Nat) (p : Place) : Place := ⟨p.index + n, p.line, p.column + n⟩

/-- After a line break of `width` characters. -/
def nextLine (width : Nat) (p : Place) : Place := ⟨p.index + width, p.line + 1, 0⟩

end Place

structure Cursor where
  rest : List Char
  place : Place
deriving Repr

namespace Cursor

/-- Past all characters up to the first that fails `p`; a break must fail it. -/
def skipWhile (p : Char → Bool) : List Char → Place → Cursor
  | [], at_ => ⟨[], at_⟩
  | c :: cs, at_ => if p c then skipWhile p cs at_.next else ⟨c :: cs, at_⟩

/-- Past a line break, if there is one; CR LF counts as one break. -/
def skipBreak : List Char → Place → Cursor
  | '\r' :: '\n' :: cs, at_ => ⟨cs, at_.nextLine 2⟩
  | c :: cs, at_ => if isBreak c then ⟨cs, at_.nextLine 1⟩ else ⟨c :: cs, at_⟩
  | [], at_ => ⟨[], at_⟩

end Cursor
end PluginRelease.Yaml
