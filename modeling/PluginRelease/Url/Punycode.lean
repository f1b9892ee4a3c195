/-!
Punycode: text in ASCII letters, digits and hyphens. ASCII characters come first, and behind the
last hyphen stand numbers that say where the others go, in the order of their codes. A number is
written in digits of base 36, the lowest first, and ends with a digit below the threshold of its
place.
-/
namespace PluginRelease.Punycode

def digit (d : Nat) : Char := if d < 26 then Char.ofNat (97 + d) else Char.ofNat (22 + d)

def digitValue? (c : Char) : Option Nat :=
  if c.isLower then some (c.toNat - 97)
  else if c.isUpper then some (c.toNat - 65)
  else if c.isDigit then some (c.toNat - 22)
  else none

def threshold (place bias : Nat) : Nat := min 26 (max 1 (36 * place - bias))

theorem threshold_pos (place bias : Nat) : 1 ≤ threshold place bias := by
  simp only [threshold]
  omega

/-! ## Numbers -/

def encodeNumber (bias place n : Nat) : List Char :=
  let t := threshold place bias
  if n < t then [digit n]
  else digit (t + (n - t) % (36 - t)) :: encodeNumber bias (place + 1) ((n - t) / (36 - t))
termination_by n
decreasing_by
  have := threshold_pos place bias
  exact Nat.lt_of_le_of_lt (Nat.div_le_self _ _) (by omega)

/-- The number and what is left behind it. -/
def decodeNumber? (bias : Nat) : Nat → Nat → List Char → Option (Nat × List Char)
  | _, _, [] => none
  | place, weight, c :: r => do
    let d ← digitValue? c
    let t := threshold place bias
    if d < t then pure (d * weight, r)
    else
      let (n, rest) ← decodeNumber? bias (place + 1) (weight * (36 - t)) r
      pure (d * weight + n, rest)

/-! ## Bias -/

/-- Divides by 35 until at most 455 are left, and counts how often. -/
def shrink (n : Nat) : Nat × Nat :=
  if 455 < n then
    let (m, times) := shrink (n / 35)
    (m, times + 1)
  else (n, 0)
termination_by n
decreasing_by exact Nat.div_lt_self (by omega) (by omega)

/-- The bias behind a number, where `count` characters are in place. -/
def adapt (first : Bool) (n count : Nat) : Nat :=
  let n := if first then n / 700 else n / 2
  let (m, times) := shrink (n + n / count)
  36 * times + 36 * m / (m + 38)

def isAscii (c : Char) : Bool := c.toNat < 0x80

/-! ## Encoding -/

structure Encoding where
  written : List Char
  /-- Places that were passed since the last number. -/
  passed : Nat
  bias : Nat
  /-- Characters in place. -/
  count : Nat

/-- Passes a character while those of code `code` are put in place. -/
def Encoding.pass (code basic : Nat) (e : Encoding) (c : Char) : Encoding :=
  if c.toNat < code then { e with passed := e.passed + 1 }
  else if c.toNat = code then
    ⟨e.written ++ encodeNumber e.bias 1 e.passed, 0, adapt (e.count = basic) e.passed (e.count + 1),
      e.count + 1⟩
  else e

/-- Puts the characters of each code in place; all codes below `next` are done. -/
def encodeCodes (basic : Nat) (s : List Char) : Nat → List Nat → Encoding → Encoding
  | _, [], e => e
  | next, code :: codes, e =>
    let e := s.foldl (Encoding.pass code basic)
      { e with passed := e.passed + (code - next) * (e.count + 1) }
    encodeCodes basic s (code + 1) codes { e with passed := e.passed + 1 }

def distinct : List Nat → List Nat
  | a :: b :: r => if a = b then distinct (b :: r) else a :: distinct (b :: r)
  | s => s

def encode (s : List Char) : List Char :=
  let basic := s.filter isAscii
  let codes := distinct (((s.filter (!isAscii ·)).map Char.toNat).mergeSort (· ≤ ·))
  basic ++ (if basic.isEmpty then [] else ['-']) ++
    (encodeCodes basic.length s 128 codes ⟨[], 0, 72, basic.length⟩).written

/-! ## Decoding -/

theorem length_of_decodeNumber? {bias place weight n : Nat} {s rest : List Char}
    (h : decodeNumber? bias place weight s = some (n, rest)) : rest.length < s.length := by
  induction s generalizing place weight n with
  | nil => simp [decodeNumber?] at h
  | cons c r ih =>
    simp only [decodeNumber?, Option.bind_eq_bind, Option.bind_eq_some_iff] at h
    obtain ⟨d, -, h⟩ := h
    split at h
    · simp at h
      simp [h.2]
    · obtain ⟨⟨m, t⟩, hm, h⟩ := Option.bind_eq_some_iff.1 h
      simp only [Option.pure_def, Option.some.injEq, Prod.mk.injEq] at h
      obtain ⟨-, rfl⟩ := h
      exact Nat.lt_succ_of_lt (ih hm)

/-- `code` and `index` tell the last character that was put in. -/
def decodeFrom? (bias code index : Nat) (s : List Char) (digits : List Char) :
    Option (List Char) :=
  if digits.isEmpty then some s
  else match h : decodeNumber? bias 1 1 digits with
    | none => none
    | some (n, rest) =>
      let count := s.length + 1
      let code' := code + (index + n) / count
      let place := (index + n) % count
      if code'.isValidChar then
        decodeFrom? (adapt (index = 0) n count) code' (place + 1)
          (s.insertIdx place (Char.ofNat code')) rest
      else none
termination_by digits.length
decreasing_by exact length_of_decodeNumber? h

/-- A hyphen that is the first of all is no end of the ASCII characters. -/
def decode? (s : List Char) : Option (List Char) :=
  let digits := (s.reverse.takeWhile (· ≠ '-')).reverse
  let basic := s.take (s.length - digits.length - 1)
  if basic.any (!isAscii ·) then none
  else decodeFrom? 72 128 0 basic (if basic.isEmpty then s else digits)

end PluginRelease.Punycode
