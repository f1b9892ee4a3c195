import PluginRelease.Text.Utf8
import PluginRelease.Text.Split

/-!
A linear commit history with tags. Commits are kept oldest first, and a tag marks how
many commits there were when it was made.
-/
namespace PluginRelease

structure History where
  commits : List Bytes
  tags : List (String × Nat)
  /-- Whether the checked-out branch has any commit. -/
  born : Bool
deriving Repr, Inhabited

namespace History

def empty : History := ⟨[], [], true⟩

def commit (h : History) (message : Bytes) : History :=
  { h with commits := h.commits ++ [message] }

/-- A tag that exists already moves to the tip. -/
def tag (h : History) (name : String) : History :=
  { h with tags := h.tags.filter (·.1 ≠ name) ++ [(name, h.commits.length)] }

def checkOutUnborn (h : History) : History := { h with born := false }

/-- Tag names in the order of their code points. -/
def tagNames (h : History) : List String :=
  (h.tags.map (·.1)).mergeSort fun a b => !decide (b < a)

/-- White space of message lines. -/
def isSpace (b : UInt8) : Bool := b == 0x20 || b == 0x09 || b == 0x0A || b == 0x0D

def messageLines : Bytes → List Bytes
  | [] => []
  | b :: bs =>
    if b = 0x0A then [] :: messageLines bs
    else match messageLines bs with
      | [] => [[b]]
      | l :: ls => (b :: l) :: ls

/-- The first paragraph of a message on one line. -/
def subject (message : Bytes) : Bytes :=
  let lines := (messageLines message).map (Text.dropEndWhile isSpace)
  let paragraph := (lines.dropWhile List.isEmpty).takeWhile (!·.isEmpty)
  (paragraph.intersperse [0x20]).flatten

/-- Subjects of the commits after the one tagged `name`, newest first. There are none to
list while the branch has no commit or without such a tag. -/
def subjectsSince (h : History) (name : String) : Option (List Bytes) :=
  if h.born && !h.commits.isEmpty then
    (h.tags.find? (·.1 == name)).map fun t => ((h.commits.drop t.2).map subject).reverse
  else none

end History
end PluginRelease
