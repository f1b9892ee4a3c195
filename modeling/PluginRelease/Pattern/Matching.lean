import PluginRelease.Pattern.CharacterSet

/-!
Patterns and whether a text contains a match. A match goes from one position of the text to
another, so a pattern is a step from a set of positions to those where its matches end.
-/
namespace PluginRelease
namespace Pattern

/-- What a position between two characters may be asked. -/
inductive Look
  | textStart
  | textEnd
  | lineStart (crlf : Bool)
  | lineEnd (crlf : Bool)
  | wordBoundary (ascii : Bool)
  | noWordBoundary (ascii : Bool)
  | wordStart (ascii : Bool)
  | wordEnd (ascii : Bool)
  | wordStartHalf (ascii : Bool)
  | wordEndHalf (ascii : Bool)
deriving DecidableEq, Repr

end Pattern

inductive Pattern
  | empty
  | set (s : Pattern.CharacterSet)
  | look (l : Pattern.Look)
  | seq (a b : Pattern)
  | alt (a b : Pattern)
  /-- At least `least` times, and at most `most` times if it is given. -/
  | times (a : Pattern) (least : Nat) (most : Option Nat)
deriving Repr

namespace Pattern

/-- A position with the characters before and after it. -/
structure Position where
  before : Option Char
  after : Option Char
deriving Repr

def positionsFrom (before : Option Char) : List Char → List Position
  | [] => [⟨before, none⟩]
  | c :: cs => ⟨before, some c⟩ :: positionsFrom (some c) cs

def wordSet (ascii : Bool) : CharacterSet :=
  if ascii then ⟨[(0x30, 0x39), (0x41, 0x5A), (0x5F, 0x5F), (0x61, 0x7A)]⟩
  else CharacterSet.word

namespace Look

def holds (l : Look) (p : Position) : Bool :=
  let isWord (ascii : Bool) (c : Option Char) := c.any (wordSet ascii).contains
  match l with
  | textStart => p.before.isNone
  | textEnd => p.after.isNone
  | lineStart crlf =>
    p.before.isNone || p.before == some '\n' ||
      (crlf && p.before == some '\r' && p.after != some '\n')
  | lineEnd crlf =>
    p.after.isNone || (p.after == some '\n' && !(crlf && p.before == some '\r')) ||
      (crlf && p.after == some '\r')
  | wordBoundary a => isWord a p.before != isWord a p.after
  | noWordBoundary a => isWord a p.before == isWord a p.after
  | wordStart a => !isWord a p.before && isWord a p.after
  | wordEnd a => isWord a p.before && !isWord a p.after
  | wordStartHalf a => !isWord a p.before
  | wordEndHalf a => !isWord a p.after

end Look

/-- A set of positions, one mark for each. -/
abbrev Marks := List Bool

namespace Marks

def union (a b : Marks) : Marks := List.zipWith or a b

def isEmpty (m : Marks) : Bool := m.all not

/-- The marks of positions before a character of the set, moved behind it. -/
def advance (s : CharacterSet) (ps : List Position) (m : Marks) : Marks :=
  false :: (List.zipWith (fun p b => b && p.after.any s.contains) ps m).dropLast

end Marks

/-- `n` steps. -/
def iterate (f : Marks → Marks) : Nat → Marks → Marks
  | 0, m => m
  | n + 1, m => iterate f n (f m)

/-- All that up to `n` steps reach. -/
def gather (f : Marks → Marks) : Nat → Marks → Marks
  | 0, m => m
  | n + 1, m => m.union (gather f n (f m))

/-- Where matches that start at the marked positions end. After as many rounds as there are
positions a repetition reaches nothing new. -/
def ends (ps : List Position) : Pattern → Marks → Marks
  | empty, m => m
  | set s, m => m.advance s ps
  | look l, m => List.zipWith (fun p b => b && l.holds p) ps m
  | seq a b, m => ends ps b (ends ps a m)
  | alt a b, m => (ends ps a m).union (ends ps b m)
  | times a least most, m =>
    let rounds := ps.length
    let first := iterate (ends ps a) (min least rounds) m
    match most with
    | none => gather (ends ps a) rounds first
    | some n => gather (ends ps a) (min (n - least) rounds) first

/-- Whether the pattern matches somewhere in the text. -/
def isIn (p : Pattern) (text : List Char) : Bool :=
  let ps := positionsFrom none text
  !(p.ends ps (ps.map fun _ => true)).isEmpty

end Pattern
end PluginRelease
