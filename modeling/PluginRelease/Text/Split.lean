/-!
Cutting a text, or its bytes, at every occurrence of a separator, and gluing the pieces again.
-/
namespace PluginRelease.Text
variable {α : Type} [DecidableEq α]

def splitOn (sep : α) : List α → List (List α)
  | [] => [[]]
  | c :: cs =>
    if c = sep then [] :: splitOn sep cs
    else match splitOn sep cs with
      | [] => [[c]]
      | p :: ps => (c :: p) :: ps

def joinWith {α : Type} (sep : List α) : List (List α) → List α
  | [] => []
  | [p] => p
  | p :: ps => p ++ sep ++ joinWith sep ps

theorem splitOn_ne_nil (sep : α) (s : List α) : splitOn sep s ≠ [] := by
  cases s with
  | nil => simp [splitOn]
  | cons c cs =>
    rw [splitOn]
    split
    · simp
    · split <;> simp

@[simp] theorem joinWith_splitOn (sep : α) (s : List α) :
    joinWith [sep] (splitOn sep s) = s := by
  induction s with
  | nil => rfl
  | cons c cs ih =>
    rw [splitOn]
    split
    · next h =>
      subst h
      cases hp : splitOn c cs with
      | nil => exact absurd hp (splitOn_ne_nil c cs)
      | cons p ps => rw [hp] at ih; simp [joinWith, ih]
    · split
      · next hp => exact absurd hp (splitOn_ne_nil sep cs)
      · next p ps hp =>
        rw [hp] at ih
        cases ps with
        | nil => simp_all [joinWith]
        | cons q qs => simpa [joinWith] using ih

/-- The text without the longest tail of elements that satisfy `p`. -/
def dropEndWhile {α : Type} (p : α → Bool) (s : List α) : List α := (s.reverse.dropWhile p).reverse

end PluginRelease.Text
