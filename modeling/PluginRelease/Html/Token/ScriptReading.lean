import PluginRelease.Html.Token.TagReading

/-!
The text of a script ends at its end tag, except where a comment holds a script of its own.
-/
namespace PluginRelease.Html.ScriptReading

/-- How far into such a comment a character stands. Dashes count up to two. -/
inductive Place
  | outside
  /-- Some characters of `<!--` are read. -/
  | opening (size : Nat)
  | comment (dashes : Nat)
  | commentAngle
  | commentWord (read : List Char)
  | inner (dashes : Nat)
  | innerAngle
  | innerWord (read : List Char)
deriving DecidableEq, Repr

def isScriptWord (read : List Char) : Bool :=
  String.ofList (read.reverse.map Char.toLower) = "script"

def outside (c : Char) : Place := if c = '<' then .opening 1 else .outside

def comment (dashes : Nat) (c : Char) : Place :=
  if c = '-' then .comment (min 2 (dashes + 1))
  else if c = '<' then .commentAngle
  else if c = '>' ∧ dashes = 2 then .outside
  else .comment 0

def inner (dashes : Nat) (c : Char) : Place :=
  if c = '-' then .inner (min 2 (dashes + 1))
  else if c = '<' then .innerAngle
  else if c = '>' ∧ dashes = 2 then .outside
  else .inner 0

def next (c : Char) : Place → Place
  | .outside => outside c
  | .opening 1 => if c = '!' then .opening 2 else outside c
  | .opening 2 => if c = '-' then .opening 3 else outside c
  | .opening _ => if c = '-' then .comment 2 else outside c
  | .comment dashes => comment dashes c
  | .commentAngle => if c.isAlpha then .commentWord [c] else comment 0 c
  | .commentWord read =>
    if c.isAlpha then .commentWord (c :: read)
    else if TagReading.endsName c then
      if isScriptWord read then .inner 0 else .comment 0
    else comment 0 c
  | .inner dashes => inner dashes c
  | .innerAngle => if c = '/' then .innerWord [] else inner 0 c
  | .innerWord read =>
    if c.isAlpha then .innerWord (c :: read)
    else if TagReading.endsName c then
      if isScriptWord read then .comment 0 else .inner 0
    else inner 0 c

def isInner : Place → Bool
  | .inner _ => true
  | .innerAngle => true
  | .innerWord _ => true
  | _ => false

/-- The script, and the page from its end tag on. -/
def split (place : Place) : List Char → List Char × List Char
  | [] => ([], [])
  | c :: rest =>
    if !isInner place && TagReading.isEndOf "script" (c :: rest) then ([], c :: rest)
    else
      let r := split (next c place) rest
      (c :: r.1, r.2)

end PluginRelease.Html.ScriptReading
