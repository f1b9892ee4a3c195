/-!
Blank characters and the operations that cut at them. Blank means the Unicode
property White_Space, so trimming treats NO-BREAK SPACE like a space.
-/
namespace PluginRelease.Text

def blankRanges : List (Nat × Nat) :=
  [(0x09, 0x0D), (0x20, 0x20), (0x85, 0x85), (0xA0, 0xA0), (0x1680, 0x1680), (0x2000, 0x200A),
    (0x2028, 0x2029), (0x202F, 0x202F), (0x205F, 0x205F), (0x3000, 0x3000)]

def isBlank (c : Char) : Bool :=
  blankRanges.any fun r => r.1 ≤ c.toNat && c.toNat ≤ r.2

def trimStart (s : List Char) : List Char := s.dropWhile isBlank

def trimEnd (s : List Char) : List Char := (s.reverse.dropWhile isBlank).reverse

def trim (s : List Char) : List Char := trimEnd (trimStart s)

/-- A text without a character that shows. -/
def isBlankText (s : List Char) : Bool := s.all isBlank

@[simp] theorem isBlankText_nil : isBlankText [] = true := rfl

theorem trim_eq_nil_of_isBlankText {s : List Char} (h : isBlankText s = true) : trim s = [] := by
  have hs : s.dropWhile isBlank = [] := by
    induction s with
    | nil => rfl
    | cons c cs ih =>
      simp only [isBlankText, List.all_cons, Bool.and_eq_true] at h
      simpa [List.dropWhile, h.1] using ih h.2
  simp [trim, trimStart, trimEnd, hs]

/-- The maximal runs of characters that are not blank. -/
def words (s : List Char) : List (List Char) :=
  go s []
where
  go : List Char → List Char → List (List Char)
    | [], acc => if acc.isEmpty then [] else [acc.reverse]
    | c :: cs, acc =>
      if isBlank c then
        if acc.isEmpty then go cs [] else acc.reverse :: go cs []
      else go cs (c :: acc)

end PluginRelease.Text
