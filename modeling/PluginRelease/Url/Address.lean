import PluginRelease.Text.Digit
import PluginRelease.Text.Split

/-!
Numeric hosts. An IPv4 address has one to four numbers, decimal, octal or hexadecimal, of which
the last fills what is left; an IPv6 address has eight pieces, of which one `::` may stand for
a run of zeros.
-/
namespace PluginRelease.Address
open Text

/-- The base and the digits of a number. -/
def radix (s : List Char) : Nat × List Char :=
  match s with
  | '0' :: 'x' :: r => (16, r)
  | '0' :: 'X' :: r => (16, r)
  | '0' :: c :: r => (8, c :: r)
  | _ => (10, s)

/-- `0x` alone is zero. -/
def number? (s : List Char) : Option Nat :=
  if s.isEmpty then none
  else
    let (base, digits) := radix s
    if digits.isEmpty then some 0 else natOfDigits? base digits

/-- The parts of a host between dots, without an empty last one. -/
def parts (host : List Char) : List (List Char) :=
  let ps := splitOn '.' host
  if 1 < ps.length ∧ ps.getLast? = some [] then ps.dropLast else ps

/-- Whether a host has to be an IPv4 address. -/
def endsInNumber (host : List Char) : Bool :=
  match (parts host).getLast? with
  | some p => !p.isEmpty && (p.all Char.isDigit || (number? p).isSome)
  | none => false

def ipv4? (host : List Char) : Option Nat := do
  let numbers ← (parts host).mapM number?
  let last ← numbers.getLast?
  let first := numbers.dropLast
  if 4 < numbers.length ∨ first.any (255 < ·) ∨ Nat.pow 256 (5 - numbers.length) ≤ last then none
  else pure (first.foldl (fun n x => 256 * n + x) 0 * Nat.pow 256 (4 - first.length) + last)

def showIpv4 (n : Nat) : List Char :=
  let numbers := [n / 16777216 % 256, n / 65536 % 256, n / 256 % 256, n % 256]
  joinWith ['.'] (numbers.map (Nat.toDigits 10))

/-- A number of a dotted quad: no leading zero, at most 255. -/
def octet? (s : List Char) : Option Nat := do
  let n ← natOfDigits? 10 s
  if (1 < s.length ∧ s.head? = some '0') ∨ 255 < n then none else pure n

def piece? (s : List Char) : Option (List Nat) := do
  if 4 < s.length then none else pure [← natOfDigits? 16 s]

/-- A dotted quad may stand for the last two pieces. -/
def lastPiece? (s : List Char) : Option (List Nat) :=
  if s.contains '.' then do
    match ← (splitOn '.' s).mapM octet? with
    | [a, b, c, d] => pure [256 * a + b, 256 * c + d]
    | _ => none
  else piece? s

/-- Pieces between colons; only at the end of an address a dotted quad may stand. -/
def pieces? (final : Bool) (s : List Char) : Option (List Nat) :=
  if s.isEmpty then some []
  else do
    let ps := splitOn ':' s
    let init ← ps.dropLast.mapM piece?
    let last ← if final then lastPiece? (ps.getLast?.getD []) else piece? (ps.getLast?.getD [])
    pure (init.flatten ++ last)

/-- The text before the first `::` and the text behind it. -/
def splitDouble : List Char → Option (List Char × List Char)
  | ':' :: ':' :: r => some ([], r)
  | c :: r => (splitDouble r).map fun p => (c :: p.1, p.2)
  | [] => none

def ipv6? (s : List Char) : Option (List Nat) :=
  match splitDouble s with
  | none => (pieces? true s).filter (·.length = 8)
  | some (a, b) => do
    let left ← pieces? false a
    let right ← pieces? true b
    let n := left.length + right.length
    if 7 < n then none else pure (left ++ List.replicate (8 - n) 0 ++ right)

def zeroRun (ps : List Nat) : Nat := (ps.takeWhile (· = 0)).length

/-- The longest run of at least two zeros, the first of equals: where it starts and how long
it is. -/
def longestZeros (ps : List Nat) : Nat × Nat :=
  let best := (List.range ps.length).foldl (fun (b : Nat × Nat) i =>
    let n := zeroRun (ps.drop i)
    if b.2 < n then (i, n) else b) (0, 0)
  if best.2 < 2 then (0, 0) else best

def showPieces (ps : List Nat) : List Char := joinWith [':'] (ps.map (hexDigits false 1))

def showIpv6 (ps : List Nat) : List Char :=
  match longestZeros ps with
  | (_, 0) => showPieces ps
  | (i, n) => showPieces (ps.take i) ++ [':', ':'] ++ showPieces (ps.drop (i + n))

end PluginRelease.Address
