import PluginRelease.Html.Token.TagReading

/-!
Reading a doctype, and which doctypes ask for the ways of old browsers.
-/
namespace PluginRelease.Html.DoctypeReading

def skipSpace (s : List Char) : List Char := s.dropWhile isSpace

def startsWith (word : String) (s : List Char) : Bool :=
  (s.take word.length).map Char.toLower = word.toList

/-- The page after the next `>`. -/
def skipTag (s : List Char) : List Char := (s.dropWhile (· ≠ '>')).tail

/-- A quoted identifier and the text after it; none follows if a `>` breaks it off. -/
def identifier (quote : Char) (s : List Char) : String × Option (List Char) :=
  let text := s.takeWhile fun c => c ≠ quote && c ≠ '>'
  let value := String.ofList (text.map TagReading.shown)
  match s.drop text.length with
  | c :: rest => if c = quote then (value, some rest) else (value, none)
  | [] => (value, none)

def isQuote (c : Char) : Bool := c = '"' || c = '\''

/-- Reads on after the public identifier, if there is one. -/
def systemPart (name publicId : Option String) (required : Bool) (s : List Char) : Doctype :=
  match skipSpace s with
  | c :: rest =>
    if isQuote c then
      let (id, after) := identifier c rest
      ⟨name, publicId, some id, (after.map skipSpace).all (·.isEmpty)⟩
    else ⟨name, publicId, none, required || c ≠ '>'⟩
  | [] => ⟨name, publicId, none, true⟩

def publicPart (name : Option String) (s : List Char) : Doctype :=
  match skipSpace s with
  | c :: rest =>
    if isQuote c then
      match identifier c rest with
      | (id, some after) => systemPart name (some id) false after
      | (id, none) => ⟨name, some id, none, true⟩
    else ⟨name, none, none, true⟩
  | [] => ⟨name, none, none, true⟩

/-- The text after the word `doctype`. -/
def parse (s : List Char) : Doctype :=
  let s := skipSpace s
  let name := s.takeWhile fun c => !isSpace c && c ≠ '>'
  if name.isEmpty then ⟨none, none, none, true⟩
  else
    let named := some (String.ofList (name.map TagReading.nameChar))
    let rest := skipSpace (s.drop name.length)
    if rest.head? = some '>' then ⟨named, none, none, false⟩
    else if startsWith "public" rest then publicPart named (rest.drop 6)
    else if startsWith "system" rest then systemPart named none true (rest.drop 6)
    else ⟨named, none, none, true⟩

/-- The page after a doctype, which a `>` ends even between quotes. -/
def read (s : List Char) : Doctype × List Char := (parse s, skipTag s)

/-- Public identifiers of HTML before its fourth version, by their starts. -/
def oldPublicStarts : List String :=
  ["-//ietf//dtd html 2.0 level 1//", "-//ietf//dtd html 2.0 level 2//",
    "-//ietf//dtd html 2.0 strict level 1//", "-//ietf//dtd html 2.0 strict level 2//",
    "-//ietf//dtd html 2.0 strict//", "-//ietf//dtd html 2.0//", "-//ietf//dtd html 2.1e//",
    "-//ietf//dtd html 3.0//", "-//ietf//dtd html 3.2 final//", "-//ietf//dtd html 3.2//",
    "-//ietf//dtd html 3//", "-//ietf//dtd html level 0//", "-//ietf//dtd html level 1//",
    "-//ietf//dtd html level 2//", "-//ietf//dtd html level 3//",
    "-//ietf//dtd html strict level 0//", "-//ietf//dtd html strict level 1//",
    "-//ietf//dtd html strict level 2//", "-//ietf//dtd html strict level 3//",
    "-//ietf//dtd html strict//", "-//ietf//dtd html//", "-//w3c//dtd html 3 1995-03-24//",
    "-//w3c//dtd html 3.2 draft//", "-//w3c//dtd html 3.2 final//", "-//w3c//dtd html 3.2//",
    "-//w3c//dtd html 3.2s draft//", "-//w3c//dtd html 4.0 frameset//",
    "-//w3c//dtd html 4.0 transitional//", "-//w3c//dtd html experimental 19960712//",
    "-//w3c//dtd html experimental 970421//", "-//w3c//dtd w3 html//",
    "-//w3o//dtd w3 html 3.0//"]

/-- Whole public identifiers. -/
def oldPublicIds : List String :=
  ["-//w3o//dtd w3 html strict 3.0//en//", "-/w3c/dtd html 4.0 transitional/en", "html"]

/-- Old only without a system identifier. -/
def oldAloneStarts : List String :=
  ["-//w3c//dtd html 4.01 frameset//", "-//w3c//dtd html 4.01 transitional//"]

def lower (s : String) : String := String.ofList (s.toList.map Char.toLower)

def hasStart (starts : List String) (s : String) : Bool :=
  starts.any fun p => p.toList.isPrefixOf s.toList

def isOld (d : Doctype) : Bool :=
  d.broken || d.name ≠ some "html" ||
    (d.publicId.map lower).any fun p => oldPublicIds.contains p || hasStart oldPublicStarts p ||
      (d.systemId.isNone && hasStart oldAloneStarts p)

end PluginRelease.Html.DoctypeReading
