/-!
Faults of a YAML text: it may be malformed, or its data may not fit what is wanted there.
-/
namespace PluginRelease.Yaml

inductive Malformation
  | controlCharacter
  | keyWithoutColon
  | strayCharacter
  | misplacedEntry
  | misplacedKey
  | misplacedValue
  | directiveName
  | unknownDirective
  | versionTooLong
  | versionNumber
  | tagHandle
  | tagSpace
  | tagText
  | tagEnd
  | tagEscape
  | anchorName
  | afterHeader
  | zeroIndent
  | tabIndent
  | quoteBroken
  | quoteOpen
  | unknownEscape
  | escapeDigits
  | escapeCode
  | colonInFlow
  | tabInPlain
  | documentStart
  | repeatedDirective
  | incompatibleVersion
  | undefinedHandle
  | nodeMissing
  | entryMissing
  | keyMissing
  | sequenceOpen
  | mappingOpen
  | unknownAnchor
  | moreDocuments
  | textEnded
deriving DecidableEq, Repr

def Malformation.message : Malformation → String
  | controlCharacter => "control characters are not allowed"
  | keyWithoutColon => "could not find expected ':'"
  | strayCharacter => "found character that cannot start any token"
  | misplacedEntry => "block sequence entries are not allowed in this context"
  | misplacedKey => "mapping keys are not allowed in this context"
  | misplacedValue => "mapping values are not allowed in this context"
  | directiveName => "could not find expected directive name"
  | unknownDirective => "found unknown directive name"
  | versionTooLong => "found extremely long version number"
  | versionNumber => "did not find expected version number"
  | tagHandle => "did not find expected '!'"
  | tagSpace => "did not find expected whitespace"
  | tagText => "did not find expected tag URI"
  | tagEnd => "did not find the expected end of a tag"
  | tagEscape => "found an incorrect escape in a tag"
  | anchorName => "did not find expected alphabetic or numeric character"
  | afterHeader => "did not find expected comment or line break"
  | zeroIndent => "found an indentation indicator equal to 0"
  | tabIndent => "found a tab character where an indentation space is expected"
  | quoteBroken => "found unexpected document indicator"
  | quoteOpen => "found unexpected end of stream"
  | unknownEscape => "found unknown escape character"
  | escapeDigits => "did not find expected hexdecimal number"
  | escapeCode => "found invalid Unicode character escape code"
  | colonInFlow => "found unexpected ':'"
  | tabInPlain => "found a tab character that violates indentation"
  | documentStart => "did not find expected <document start>"
  | repeatedDirective => "found duplicate directive"
  | incompatibleVersion => "found incompatible YAML document"
  | undefinedHandle => "found undefined tag handle"
  | nodeMissing => "did not find expected node content"
  | entryMissing => "did not find expected '-' indicator"
  | keyMissing => "did not find expected key"
  | sequenceOpen => "did not find expected ',' or ']'"
  | mappingOpen => "did not find expected ',' or '\x7d'"
  | unknownAnchor => "unknown anchor"
  | moreDocuments => "deserializing from YAML containing more than one document is not supported"
  | textEnded => "EOF while parsing a value"

/-- Data that does not fit carries its own message, and the path of its place once known. -/
inductive Fault
  | malformed (what : Malformation)
  | tooDeep
  | tooManyAliases
  | repeatedEntry
  | unfit (message : String) (path : Option String)
deriving DecidableEq, Repr

namespace Fault

def message : Fault → String
  | malformed m => m.message
  | tooDeep => "recursion limit exceeded"
  | tooManyAliases => "repetition limit exceeded"
  | repeatedEntry => "repeated entry with an equal key"
  | unfit m none => m
  | unfit m (some path) => if path = "" then m else path ++ ": " ++ m

/-- The first path that a fault gets stays with it. -/
def located (path : String) : Fault → Fault
  | unfit m none => unfit m (some path)
  | f => f

end Fault
end PluginRelease.Yaml
