/-!
Lines of a text. A line ends with LF or CR LF, and the last one may lack its end.
-/
namespace PluginRelease.Text

/-- The text without one line end: LF, or CR LF. -/
def chomp (s : List Char) : List Char :=
  match s.reverse with
  | '\n' :: '\r' :: r => r.reverse
  | '\n' :: r => r.reverse
  | _ => s

/-- Cuts after each LF, which stays with its line. -/
def linePieces : List Char → List (List Char)
  | [] => []
  | c :: cs =>
    if c = '\n' then [c] :: linePieces cs
    else match linePieces cs with
      | [] => [[c]]
      | p :: ps => (c :: p) :: ps

def lines (s : List Char) : List (List Char) := (linePieces s).map chomp

@[simp] theorem linePieces_flatten (s : List Char) : (linePieces s).flatten = s := by
  induction s with
  | nil => rfl
  | cons c cs ih =>
    rw [linePieces]
    split
    · simp [ih]
    · split
      · simp_all
      · next h => rw [h] at ih; simpa using ih

/-- Each text in turn, with one LF after it. -/
def unlines (ls : List (List Char)) : List Char := ls.flatMap (· ++ ['\n'])

end PluginRelease.Text
