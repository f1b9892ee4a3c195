import PluginRelease.Html.Token

/-!
Kinds of elements that the building of a page distinguishes.
-/
namespace PluginRelease.Html.ElementName

def html (tag : String) : ElementName := ⟨.html, tag⟩

/-- An HTML element with one of some tags. -/
def isOneOf (tags : List String) (n : ElementName) : Bool := n.space = .html && tags.contains n.tag

/-- MathML elements that hold text. -/
def isMathText (n : ElementName) : Bool :=
  n.space = .mathml && ["mi", "mo", "mn", "ms", "mtext"].contains n.tag

/-- SVG elements that hold HTML. -/
def holdsHtml (n : ElementName) : Bool :=
  n.space = .svg && ["foreignObject", "desc", "title"].contains n.tag

/-- What an open element is looked for within. -/
inductive Scope
  | default
  | listItem
  | button
  | table
  | select
deriving DecidableEq, Repr

def bounds (s : Scope) (n : ElementName) : Bool :=
  let default :=
    n.isOneOf ["applet", "caption", "html", "table", "td", "th", "marquee", "object", "template"]
      || n.isMathText || n.holdsHtml
  match s with
  | .default => default
  | .listItem => default || n.isOneOf ["ol", "ul"]
  | .button => default || n.isOneOf ["button"]
  | .table => n.isOneOf ["html", "table", "template"]
  | .select => !n.isOneOf ["optgroup", "option"]

/-- Elements whose end tag may be left out. -/
def impliedEnds : List String :=
  ["dd", "dt", "li", "option", "optgroup", "p", "rb", "rp", "rt", "rtc"]

def thoroughImpliedEnds : List String :=
  impliedEnds ++ ["caption", "colgroup", "tbody", "td", "tfoot", "th", "thead", "tr"]

def headings : List String := ["h1", "h2", "h3", "h4", "h5", "h6"]

/-- Parts of a table that hold no text of their own. -/
def tableParts : List String := ["table", "tbody", "tfoot", "thead", "tr"]

def cells : List String := ["td", "th"]

def sections : List String := ["tbody", "tfoot", "thead"]

/-- Elements with rules of their own. -/
def special : List String :=
  ["address", "applet", "area", "article", "aside", "base", "basefont", "bgsound", "blockquote",
    "body", "br", "button", "caption", "center", "col", "colgroup", "dd", "details", "dir", "div",
    "dl", "dt", "embed", "fieldset", "figcaption", "figure", "footer", "form", "frame", "frameset",
    "h1", "h2", "h3", "h4", "h5", "h6", "head", "header", "hgroup", "hr", "html", "iframe", "img",
    "input", "isindex", "li", "link", "listing", "main", "marquee", "menu", "meta", "nav",
    "noembed", "noframes", "noscript", "object", "ol", "p", "param", "plaintext", "pre", "script",
    "section", "select", "source", "style", "summary", "table", "tbody", "td", "template",
    "textarea", "tfoot", "th", "thead", "title", "tr", "track", "ul", "wbr", "xmp"]

def isSpecial (n : ElementName) : Bool := n.isOneOf special

/-- Elements that format text wherever they stand. -/
def formatting : List String :=
  ["b", "big", "code", "em", "font", "i", "s", "small", "strike", "strong", "tt", "u"]

/-- Containers that close a paragraph. -/
def blocks : List String :=
  ["address", "article", "aside", "blockquote", "center", "details", "dialog", "dir", "div", "dl",
    "fieldset", "figcaption", "figure", "footer", "header", "hgroup", "main", "menu", "nav", "ol",
    "section", "summary", "ul"]

/-- HTML elements that cannot stand in SVG or MathML. -/
def breakouts : List String :=
  ["b", "big", "blockquote", "body", "br", "center", "code", "dd", "div", "dl", "dt", "em",
    "embed", "h1", "h2", "h3", "h4", "h5", "h6", "head", "hr", "i", "img", "li", "listing", "menu",
    "meta", "nobr", "ol", "p", "pre", "ruby", "s", "small", "span", "strong", "strike", "sub",
    "sup", "table", "tt", "u", "ul", "var"]

/-- SVG tags whose case matters. -/
def svgTags : List String :=
  ["altGlyph", "altGlyphDef", "altGlyphItem", "animateColor", "animateMotion", "animateTransform",
    "clipPath", "feBlend", "feColorMatrix", "feComponentTransfer", "feComposite",
    "feConvolveMatrix", "feDiffuseLighting", "feDisplacementMap", "feDistantLight", "feDropShadow",
    "feFlood", "feFuncA", "feFuncB", "feFuncG", "feFuncR", "feGaussianBlur", "feImage", "feMerge",
    "feMergeNode", "feMorphology", "feOffset", "fePointLight", "feSpecularLighting", "feSpotLight",
    "feTile", "feTurbulence", "foreignObject", "glyphRef", "linearGradient", "radialGradient",
    "textPath"]

def lower (s : String) : String := String.ofList (s.toList.map Char.toLower)

def svgTag (tag : String) : String := (svgTags.find? (lower · = tag)).getD tag

/-- Attributes of SVG and MathML whose name has a part before a colon, with the part after it. -/
def spacedAttributes : List (String × String) :=
  [("xlink:actuate", "actuate"), ("xlink:arcrole", "arcrole"), ("xlink:href", "href"),
    ("xlink:role", "role"), ("xlink:show", "show"), ("xlink:title", "title"),
    ("xlink:type", "type"), ("xml:lang", "lang"), ("xml:space", "space"),
    ("xmlns:xlink", "xlink")]

def foreignAttribute (a : Attribute) : Attribute :=
  match spacedAttributes.find? (·.1 = a.name) with
  | some p => { a with name := p.2 }
  | none => a

end PluginRelease.Html.ElementName
