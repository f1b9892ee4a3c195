import PluginRelease.Text.Quoted
import PluginRelease.Decimal.Reading
import PluginRelease.Decimal.Shortest

/-!
What a scalar without quotes means: nothing, a truth value, a number, or its own text.
-/
namespace PluginRelease.Yaml
open Text

inductive Number
  | integer (n : Int)
  | float (x : Binary64)
  | nan
deriving DecidableEq, Repr

inductive Meaning
  | null
  | bool (b : Bool)
  | number (n : Number)
  /-- An integer of more than 64 bits. -/
  | wideInteger (n : Int)
  | text
deriving DecidableEq, Repr

namespace Meaning

def isNull (s : List Char) : Bool :=
  ["null", "Null", "NULL", "~"].any fun w => w.toList == s

def bool? (s : List Char) : Option Bool :=
  if ["true", "True", "TRUE"].any fun w => w.toList == s then some true
  else if ["false", "False", "FALSE"].any fun w => w.toList == s then some false
  else none

def dropSign (s : List Char) : List Char :=
  match s with
  | '-' :: r => r
  | '+' :: r => r
  | r => r

/-- Digits after a zero are no number, so that codes keep their zeros. -/
def isZeroPadded (s : List Char) : Bool :=
  match dropSign s with
  | '0' :: c :: cs => (c :: cs).all Char.isDigit
  | _ => false

/-- Digits, or digits of another base after its mark. -/
def magnitude? (s : List Char) : Option Nat :=
  match s with
  | '0' :: 'x' :: r => natOfDigits? 16 r
  | '0' :: 'o' :: r => natOfDigits? 8 r
  | '0' :: 'b' :: r => natOfDigits? 2 r
  | r => if isZeroPadded r then none else natOfDigits? 10 r

def integer? (s : List Char) : Option Int :=
  match s with
  | '-' :: r => (magnitude? r).map fun n => -(n : Int)
  | '+' :: r => (magnitude? r).map Int.ofNat
  | r => (magnitude? r).map Int.ofNat

/-- Every integer of at most 128 bits. -/
def ofInteger? (n : Int) : Option Meaning :=
  if -Int.pow 2 63 ≤ n ∧ n < Int.pow 2 64 then some (number (.integer n))
  else if -Int.pow 2 127 ≤ n ∧ n < Int.pow 2 128 then some (wideInteger n)
  else none

def intMeaning? (s : List Char) : Option Meaning := (integer? s).bind ofInteger?

def infinityWords : List (List Char) := [".inf".toList, ".Inf".toList, ".INF".toList]

def nanWords : List (List Char) := [".nan".toList, ".NaN".toList, ".NAN".toList]

def float? (s : List Char) : Option Number :=
  let unsigned := match s with
    | '+' :: r => r
    | r => r
  if s.head? == some '+' && (unsigned.head? == some '+' || unsigned.head? == some '-') then none
  else if infinityWords.contains unsigned then some (.float ⟨false, Binary64.infinity⟩)
  else if s.head? == some '-' && infinityWords.contains s.tail then
    some (.float ⟨true, Binary64.infinity⟩)
  else if nanWords.contains s then some .nan
  else (Decimal.parse? unsigned).bind fun d =>
    if d.toBinary64.isFinite then some (.float d.toBinary64) else none

/-- The meaning of a scalar that has neither quotes nor a tag. -/
def ofPlain (s : List Char) : Meaning :=
  if s.isEmpty || isNull s then null
  else match bool? s with
    | some b => bool b
    | none =>
      match intMeaning? s with
      | some m => m
      | none =>
        if isZeroPadded s then text
        else match float? s with
          | some x => number x
          | none => text

end Meaning

namespace Number

/-- A number as it is written again. -/
def text : Number → String
  | integer n => toString n
  | nan => ".nan"
  | float x =>
    if x.isFinite then Decimal.Shortest.text Decimal.Shortest.compact x
    else if x.negative then "-.inf" else ".inf"

end Number
end PluginRelease.Yaml
