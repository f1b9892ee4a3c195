import PluginRelease.Url.Address

/-!
URLs in parts, and how the parts are written. Every part holds the text that is written; a host
may be absent, or present and empty.
-/
namespace PluginRelease
open Text

inductive Host
  | domain (name : List Char)
  | ipv4 (address : Nat)
  | ipv6 (pieces : List Nat)
deriving DecidableEq, Repr

namespace Host

def empty : Host := domain []

def render : Host → List Char
  | domain name => name
  | ipv4 n => Address.showIpv4 n
  | ipv6 ps => ['['] ++ Address.showIpv6 ps ++ [']']

end Host

/-- A path is a list of names, or a text without a root. -/
inductive UrlPath
  | names (names : List (List Char))
  | rootless (text : List Char)
deriving DecidableEq, Repr

structure Url where
  scheme : List Char
  user : List Char
  password : List Char
  host : Option Host
  port : Option Nat
  path : UrlPath
  query : Option (List Char)
  fragment : Option (List Char)
deriving DecidableEq, Repr

namespace Url

/-- Schemes with rules of their own, and their ports. -/
def specialSchemes : List (String × Option Nat) :=
  [("http", some 80), ("https", some 443), ("ws", some 80), ("wss", some 443), ("ftp", some 21),
    ("file", none)]

def isSpecialScheme (scheme : List Char) : Bool :=
  specialSchemes.any fun p => p.1.toList = scheme

def defaultPort? (scheme : List Char) : Option Nat :=
  (specialSchemes.find? fun p => p.1.toList = scheme).bind (·.2)

def fileScheme : List Char := "file".toList

def isSpecial (u : Url) : Bool := isSpecialScheme u.scheme

def isFile (u : Url) : Bool := u.scheme = fileScheme

def isRootless (u : Url) : Bool :=
  match u.path with
  | .rootless _ => true
  | .names _ => false

def renderUser (u : Url) : List Char :=
  if u.user.isEmpty ∧ u.password.isEmpty then []
  else u.user ++ (if u.password.isEmpty then [] else ':' :: u.password) ++ ['@']

def renderAuthority (u : Url) : List Char :=
  match u.host with
  | none => []
  | some h => ['/', '/'] ++ u.renderUser ++ h.render ++
    (match u.port with
    | none => []
    | some p => ':' :: Nat.toDigits 10 p)

/-- A path that starts with an empty name must not look like a host. -/
def renderPath (u : Url) : List Char :=
  match u.path with
  | .rootless text => text
  | .names names =>
    let written := names.flatMap fun n => '/' :: n
    match u.host, names with
    | none, [] :: _ :: _ => '/' :: '.' :: written
    | _, _ => written

def renderTail (mark : Char) : Option (List Char) → List Char
  | none => []
  | some s => mark :: s

def render (u : Url) : String :=
  String.ofList (u.scheme ++ ':' :: (u.renderAuthority ++ u.renderPath ++
    renderTail '?' u.query ++ renderTail '#' u.fragment))

def withoutUser (u : Url) : Url := { u with user := [], password := [] }

end Url
end PluginRelease
