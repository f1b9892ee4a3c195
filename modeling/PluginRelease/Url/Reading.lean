import PluginRelease.Url.Basic
import PluginRelease.Url.Domain
import PluginRelease.Url.Fault

/-!
Reading URLs, by themselves or relative to a base. Blanks at the ends are dropped, tabs and line
breaks everywhere. Special schemes have a host and treat a backslash like a slash.
-/
namespace PluginRelease
open Text

namespace Url

/-! ### Marks that are encoded, part by part -/

def fragmentMarks : List Char := [' ', '"', '<', '>', '\x60']

def pathMarks : List Char := fragmentMarks ++ ['#', '?', '\x7b', '\x7d']

def userMarks : List Char :=
  pathMarks ++ ['/', ':', ';', '=', '@', '[', '\\', ']', '^', '|']

def queryMarks (special : Bool) : List Char :=
  [' ', '"', '#', '<', '>'] ++ (if special then ['\''] else [])

/-! ### Pieces of the input -/

def clean (s : List Char) : List Char :=
  (dropEndWhile (· ≤ ' ') (s.dropWhile (· ≤ ' '))).filter fun c =>
    c ≠ '\t' && c ≠ '\n' && c ≠ '\r'

def isSchemeChar (c : Char) : Bool := c.isAlphanum || c = '+' || c = '-' || c = '.'

/-- The scheme and what follows its colon. -/
def splitScheme? (s : List Char) : Option (List Char × List Char) :=
  match s with
  | [] => none
  | c :: _ =>
    if c.isAlpha then
      let scheme := s.takeWhile isSchemeChar
      match s.drop scheme.length with
      | ':' :: rest => some (scheme.map Char.toLower, rest)
      | _ => none
    else none

def isSlash (special : Bool) (c : Char) : Bool := c = '/' || (special && c = '\\')

def endsAuthority (special : Bool) (c : Char) : Bool := c = '?' || c = '#' || isSlash special c

def splitWhile (p : Char → Bool) (s : List Char) : List Char × List Char :=
  (s.takeWhile p, s.dropWhile p)

/-- The parts before and after the last `@`. -/
def splitLastAt (s : List Char) : Option (List Char × List Char) :=
  if s.contains '@' then
    let after := (s.reverse.takeWhile (· ≠ '@')).reverse
    some (s.take (s.length - after.length - 1), after)
  else none

/-- The part before the first `:` outside brackets, and the rest. -/
def splitPort (inside : Bool) : List Char → List Char × List Char
  | [] => ([], [])
  | c :: cs =>
    if c = ':' ∧ !inside then ([], c :: cs)
    else
      let r := splitPort (if c = '[' then true else if c = ']' then false else inside) cs
      (c :: r.1, r.2)

/-! ### Hosts -/

def readIpv6 (s : List Char) : Except UrlFault Host :=
  match s.getLast?, Address.ipv6? s.dropLast with
  | some ']', some ps => .ok (.ipv6 ps)
  | _, _ => .error .badIpv6

/-- A host of a scheme without rules is kept as it is. -/
def readForeignHost (s : List Char) : Except UrlFault Host :=
  match s with
  | '[' :: rest => readIpv6 rest
  | _ =>
    if s.any fun c => c.toNat = 0 || c = ' ' || (c ≠ '%' && Domain.forbiddenMarks.contains c) then
      .error .badDomainCharacter
    else .ok (.domain (Percent.encode [] s))

def readHost (s : List Char) : Except UrlFault Host :=
  match s with
  | '[' :: rest => readIpv6 rest
  | _ =>
    match (Utf8.decode? (Percent.decode (Utf8.encode s))).bind Domain.toAscii? with
    | none => .error .badDomain
    | some [] => .error .emptyHost
    | some name =>
      if Address.endsInNumber name then
        match Address.ipv4? name with
        | some n => .ok (.ipv4 n)
        | none => .error .badIpv4
      else .ok (.domain name)

/-! ### Authorities -/

/-- User and password, encoded. -/
def readUser (s : List Char) : List Char × List Char :=
  let (user, rest) := splitWhile (· ≠ ':') s
  (Percent.encode userMarks user, Percent.encode userMarks rest.tail)

/-- The port, unless it is that of the scheme. -/
def readPort (scheme : List Char) (s : List Char) : Except UrlFault (Option Nat) :=
  if s.isEmpty then .ok none
  else match natOfDigits? 10 s with
    | none => .error .badPort
    | some n =>
      if 65535 < n then .error .badPort
      else .ok (if defaultPort? scheme = some n then none else some n)

/-- What an authority says of user, host and port, and what is left of it: a backslash ends a
port under any scheme. -/
structure Authority where
  user : List Char
  password : List Char
  host : Host
  port : Option Nat
  left : List Char
deriving DecidableEq, Repr

/-- A host may be empty where the scheme has no rules, but then nothing may stand beside it.
`final` if the whole URL ends with the authority. -/
def readAuthority (scheme : List Char) (final : Bool) (s : List Char) :
    Except UrlFault Authority := do
  let special := isSpecialScheme scheme
  let (user, rest) := match splitLastAt s with
    | none => (([], []), s)
    | some (u, rest) => (readUser u, rest)
  let (hostText, portText) := splitPort false rest
  let bareAt := s = ['@'] && !final
  if hostText.isEmpty ∧ (special ∨ !portText.isEmpty ∨ user ≠ ([], []) ∨ bareAt) then
    .error .emptyHost
  else
    let host ← if special then readHost hostText else readForeignHost hostText
    let (digits, left) := splitWhile (· ≠ '\\') portText.tail
    let port ← readPort scheme digits
    pure ⟨user.1, user.2, host, port, left⟩

/-! ### Paths -/

def isDriveLetter (s : List Char) : Bool :=
  match s with
  | [a, b] => a.isAlpha && (b = ':' || b = '|')
  | _ => false

def isNormalDriveLetter (s : List Char) : Bool := isDriveLetter s && s.getLast? = some ':'

/-- A drive letter, if it ends there or a slash, `?` or `#` follows. -/
def startsWithDriveLetter (s : List Char) : Bool :=
  isDriveLetter (s.take 2) && (match s[2]? with
    | none => true
    | some c => endsAuthority true c)

def isSingleDot (s : List Char) : Bool :=
  [".", "%2e"].contains (String.ofList (s.map Char.toLower))

def isDoubleDot (s : List Char) : Bool :=
  ["..", ".%2e", "%2e.", "%2e%2e"].contains (String.ofList (s.map Char.toLower))

/-- A drive letter at the root of a file path stays. -/
def shorten (file : Bool) (names : List (List Char)) : List (List Char) :=
  match names with
  | [n] => if file && isNormalDriveLetter n then names else []
  | _ => names.dropLast

/-- One name of a path; `final` if no slash follows it. -/
def step (file : Bool) (names : List (List Char)) (final : Bool) (name : List Char) :
    List (List Char) :=
  if isDoubleDot name then shorten file names ++ (if final then [[]] else [])
  else if isSingleDot name then names ++ (if final then [[]] else [])
  else if file && names.isEmpty && isDriveLetter name then [name.take 1 ++ [':']]
  else names ++ [name]

def steps (file : Bool) (names : List (List Char)) : List (List Char) → List (List Char)
  | [] => names
  | [n] => step file names true n
  | n :: ns => steps file (step file names false n) ns

/-- The names between slashes, encoded. -/
def readNames (special : Bool) (s : List Char) : List (List Char) :=
  (splitOn '/' (s.map fun c => if isSlash special c then '/' else c)).map (Percent.encode pathMarks)

/-- Follows a path without its first slash from the names of a place. -/
def walk (scheme : List Char) (names : List (List Char)) (s : List Char) : List (List Char) :=
  steps (scheme = fileScheme) names (readNames (isSpecialScheme scheme) s)

/-- The path of a file has no empty names at its start. -/
def dropEmptyNames : List (List Char) → List (List Char)
  | [] :: n :: ns => dropEmptyNames (n :: ns)
  | ns => ns

/-! ### Whole URLs -/

/-- The path, the query and the fragment. -/
structure Tail where
  path : List Char
  query : Option (List Char)
  fragment : Option (List Char)
deriving DecidableEq, Repr

def splitTail (special : Bool) (s : List Char) : Tail :=
  let (path, rest) := splitWhile (fun c => c ≠ '?' && c ≠ '#') s
  let (before, fragment) := splitWhile (· ≠ '#') rest
  { path
    query := before.tail?.map (Percent.encode (queryMarks special))
    fragment := fragment.tail?.map (Percent.encode fragmentMarks) }

def dropSlash (special : Bool) (s : List Char) : List Char :=
  match s with
  | c :: cs => if isSlash special c then cs else s
  | [] => []

/-- Reads on after the `//` before an authority. -/
def readHosted (scheme : List Char) (s : List Char) : Except UrlFault Url := do
  let special := isSpecialScheme scheme
  let (authority, rest) := splitWhile (fun c => !endsAuthority special c) s
  let a ← readAuthority scheme rest.isEmpty authority
  let tail := splitTail special (a.left ++ rest)
  let names :=
    if tail.path.isEmpty ∧ !special then []
    else walk scheme [] (dropSlash special tail.path)
  pure ⟨scheme, a.user, a.password, some a.host, a.port, .names names, tail.query, tail.fragment⟩

/-- A URL of a place without authority. -/
def ofTail (scheme : List Char) (host : Option Host) (path : UrlPath) (tail : Tail) : Url :=
  ⟨scheme, [], [], host, none, path, tail.query, tail.fragment⟩

def readForeign (scheme : List Char) (s : List Char) : Except UrlFault Url :=
  match s with
  | '/' :: '/' :: rest => readHosted scheme rest
  | '/' :: _ =>
    let tail := splitTail false s
    .ok (ofTail scheme none (.names (walk scheme [] tail.path.tail)) tail)
  | _ =>
    let tail := splitTail false s
    .ok (ofTail scheme none (.rootless (Percent.encode [] tail.path)) tail)

def names (u : Url) : List (List Char) :=
  match u.path with
  | .names names => names
  | .rootless _ => []

def ofFile (host : Host) (names : List (List Char)) (tail : Tail) : Url :=
  ofTail fileScheme (some host) (.names (dropEmptyNames names)) tail

/-- The host after `//`, unless a drive letter stands there; this machine has no name. -/
def readFileHost (s : List Char) : Except UrlFault (Host × List Char) :=
  let (text, rest) := splitWhile (fun c => !endsAuthority true c) s
  if isDriveLetter text then .ok (.empty, s)
  else if text.isEmpty then .ok (.empty, rest)
  else do
    let host ← readHost text
    pure (if host = .domain "localhost".toList then .empty else host, rest)

/-- A rooted path on the machine of a base, where a drive letter of the base stays. -/
def readFileRoot (base : Option Url) (s : List Char) : Url :=
  let tail := splitTail true s
  let drive := ((base.map names).getD []).take 1
  if startsWithDriveLetter s then ofFile .empty (walk fileScheme [] tail.path) tail
  else if drive.any isNormalDriveLetter then ofFile .empty (walk fileScheme drive tail.path) tail
  else ofFile ((base.bind (·.host)).getD .empty) (walk fileScheme [] tail.path) tail

/-- A path with a host before it, which a drive letter puts out of force. -/
def readFileHosted (s : List Char) : Except UrlFault Url := do
  let (host, rest) ← readFileHost s
  let tail := splitTail true rest
  let names := walk fileScheme [] (dropSlash true tail.path)
  pure (ofFile (if names.head?.any isNormalDriveLetter then .empty else host) names tail)

def readFile (base : Option Url) (s : List Char) : Except UrlFault Url :=
  let tail := splitTail true s
  match s, base with
  | [], some b => .ok { b with fragment := none }
  | '#' :: _, some b => .ok { b with fragment := tail.fragment }
  | '?' :: _, some b => .ok { b with query := tail.query, fragment := tail.fragment }
  | _, _ =>
    match (s.takeWhile (isSlash true)).length, base with
    | 0, some b =>
      if startsWithDriveLetter s then .ok (ofFile .empty (walk fileScheme [] tail.path) tail)
      else .ok (ofFile (b.host.getD .empty) (walk fileScheme (shorten true b.names) tail.path) tail)
    | 0, none => .ok (ofFile .empty (walk fileScheme [] tail.path) tail)
    | 1, _ => .ok (readFileRoot base s.tail)
    | _, _ => readFileHosted (s.drop 2)

/-- A reference without a scheme, or with the scheme of its base. -/
def readRelative (base : Url) (s : List Char) : Except UrlFault Url :=
  let special := base.isSpecial
  let tail := splitTail special s
  let place (names : List (List Char)) : Url :=
    { base with path := .names names, query := tail.query, fragment := tail.fragment }
  match s with
  | [] => .ok { base with fragment := none }
  | '#' :: _ => .ok { base with fragment := tail.fragment }
  | '?' :: _ => .ok { base with query := tail.query, fragment := tail.fragment }
  | '/' :: '/' :: rest => readHosted base.scheme rest
  | c :: rest =>
    if isSlash true c then
      match rest with
      | d :: _ =>
        if isSlash true d then readHosted base.scheme (s.dropWhile (isSlash true))
        else .ok (place (walk base.scheme [] tail.path.tail))
      | [] => .ok (place (walk base.scheme [] tail.path.tail))
    else .ok (place (walk base.scheme base.names.dropLast tail.path))

def read (base : Option Url) (text : String) : Except UrlFault Url :=
  let s := clean text.toList
  match splitScheme? s with
  | some (scheme, rest) =>
    if scheme = fileScheme then readFile (base.filter isFile) rest
    else if isSpecialScheme scheme then
      match base.filter (·.scheme = scheme) with
      | some b =>
        if (rest.takeWhile (isSlash true)).length < 2 then readRelative b rest
        else readHosted scheme (rest.dropWhile (isSlash true))
      | none => readHosted scheme (rest.dropWhile (isSlash true))
    else readForeign scheme rest
  | none =>
    match base with
    | none => .error .relativeWithoutBase
    | some b =>
      match s with
      | '#' :: _ => .ok { b with fragment := (splitTail b.isSpecial s).fragment }
      | _ =>
        if b.isRootless then .error .relativeWithRootlessBase
        else if b.isFile then readFile (some b) s
        else readRelative b s

/-- A URL by itself. -/
def ofText (text : String) : Except UrlFault Url := read none text

/-- The URL that a reference names on a page. -/
def join (base : Url) (reference : String) : Except UrlFault Url := read (some base) reference

end Url
end PluginRelease
