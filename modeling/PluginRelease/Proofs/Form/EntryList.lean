import PluginRelease.Html.Token.Reading
import PluginRelease.Proofs.Form.Control
import PluginRelease.Proofs.Html.Order
import PluginRelease.Proofs.Text.Case

/-!
The entry list of a form, as the HTML standard constructs it when the form is submitted with its
first submit button, for the controls that forms are made of. The encoding of the form and the
direction of its texts, which some entries name, are parameters.
-/
namespace PluginRelease.Form.EntryList
open Html Text Control
variable (charset : String) (direction : Node → String)

def isHtml (tag : String) : Node → Bool
  | .element name _ _ => name = .html tag
  | .text _ => false

def isText : Node → Bool
  | .element _ _ _ => false
  | .text _ => true

/-! ## Which controls are disabled from around -/

mutual

/-- All below a node, each with whether something around it keeps it from being sent: a fieldset
that is disabled, outside its first legend, or a list of suggestions. -/
def below (barred : Bool) : Node → List (Bool × Node)
  | .element name attributes children =>
    if name = .html "datalist" then inOrder true none children
    else if name = .html "fieldset" && attributes.any (·.name = "disabled") then
      inOrder true (some barred) children
    else inOrder barred none children
  | .text _ => []

/-- Some trees with all below them; what is said of the first legend may differ. -/
def inOrder (barred : Bool) (legend : Option Bool) : List Node → List (Bool × Node)
  | [] => []
  | n :: ns =>
    if isHtml "legend" n then
      (barred, n) :: below (legend.getD barred) n ++ inOrder barred none ns
    else (barred, n) :: below barred n ++ inOrder barred legend ns

end

/-! ## Buttons and boxes -/

/-- The types of inputs but that of plain text. -/
def knownTypes : List String :=
  ["hidden", "search", "tel", "url", "email", "password", "date", "month", "week", "time",
    "datetime-local", "number", "range", "color", "checkbox", "radio", "file", "submit", "image",
    "reset", "button"]

/-- An input of a type that is not known is a field of text. -/
def inputState (m : Node) : String :=
  if inputType m ∈ knownTypes then inputType m else "text"

def isInput (state : String) (m : Node) : Bool := isHtml "input" m && inputState m = state

def isSubmitButton (m : Node) : Bool :=
  isInput "submit" m || isInput "image" m ||
    (isHtml "button" m && !(["reset", "button"].contains (buttonType m)))

def isButton (m : Node) : Bool :=
  isHtml "button" m || ["submit", "image", "reset", "button"].any (isInput · m)

def isBox (m : Node) : Bool := isInput "checkbox" m || isInput "radio" m

/-- A radio button that is checked and of a group. -/
def isCheckedRadio (name : String) (m : Node) : Bool :=
  isInput "radio" m && m.hasAttribute "checked" && own m "name" = name

/-- Of the radio buttons of a group the last one that is marked stays checked. -/
def isChecked (m : Node) (later : List Node) : Bool :=
  m.hasAttribute "checked" && !(isInput "radio" m && later.any (isCheckedRadio (own m "name")))

/-! ## Lists of options -/

/-- The options that a part of a list is or holds, each with whether it is disabled. -/
def optionsAt (c : Node) : List (Bool × Node) :=
  if isHtml "option" c then [(c.hasAttribute "disabled", c)]
  else if isHtml "optgroup" c then
    (c.children.filter (isHtml "option")).map fun o =>
      (c.hasAttribute "disabled" || o.hasAttribute "disabled", o)
  else []

def optionsOf (m : Node) : List (Bool × Node) := m.children.flatMap optionsAt

/-- The last option that is marked, or else the first that is not disabled. -/
def selected? (m : Node) : Option (Bool × Node) :=
  ((optionsOf m).filter (·.2.hasAttribute "selected")).getLast?.or ((optionsOf m).find? (!·.1))

/-- The first option that is marked, or else the first. -/
def firstMarked? (m : Node) : Option (Bool × Node) :=
  ((optionsOf m).find? (·.2.hasAttribute "selected")).or (optionsOf m).head?

/-- A text without blanks around it and with single spaces in it. -/
def collapse (s : List Char) : List Char :=
  joinWith [' '] ((s.splitOnP isSpace).filter (!·.isEmpty))

def valueOfOption (o : Node) : String :=
  (o.attribute? "value").getD (String.ofList (collapse o.textContent))

/-! ## Values -/

def stripEnds (s : List Char) : List Char :=
  dropEndWhile isSpace (s.dropWhile isSpace)

/-- A field of one line has a value without line ends; an address has no blanks around it. -/
def sanitize (m : Node) (s : List Char) : List Char :=
  if inputState m = "hidden" ∨ inputState m = "submit" then s
  else if inputState m = "email" ∧ m.hasAttribute "multiple" = true then
    joinWith [','] ((splitOn ',' s).map stripEnds)
  else
    let line := s.filter fun c => c ≠ '\n' ∧ c ≠ '\r'
    if inputState m = "url" ∨ inputState m = "email" then stripEnds line else line

def valueOf (m : Node) : String :=
  if isHtml "textarea" m then String.ofList (Token.joinLineEnds m.textContent)
  else if isInput "hidden" m && SameButCase (own m "name") "_charset_" then charset
  else if isHtml "input" m then String.ofList (sanitize m (own m "value").toList)
  else own m "value"

/-! ## Entries -/

/-- The values that a control is sent with, files left out. -/
def values (m : Node) (later : List Node) : List String :=
  if isHtml "select" m then ((selected? m).toList.filter (!·.1)).map fun o => valueOfOption o.2
  else if isBox m then if isChecked m later then [(m.attribute? "value").getD "on"] else []
  else if isInput "file" m then []
  else if isHtml "input" m || isHtml "textarea" m || isHtml "button" m then [valueOf charset m]
  else []

def tellsDirection (m : Node) : Bool :=
  isHtml "textarea" m ||
    ["hidden", "text", "search", "tel", "url", "email", "password", "submit"].any (isInput · m)

def entriesOf (m : Node) (later : List Node) : List (String × String) :=
  if own m "name" = "" then []
  else (values charset m later).map (own m "name", ·) ++
    if tellsDirection m && own m "dirname" ≠ "" then [(own m "dirname", direction m)] else []

/-- Of the buttons only a submit button with none before it takes part. -/
def takesPart (barred : Bool) (isLate : Bool) (m : Node) : Bool :=
  !barred && !m.hasAttribute "disabled" && (!isButton m || isSubmitButton m && !isLate)

/-- The entries of some controls, in document order; `isLate` if there is a submit button before
them. -/
def entriesFrom (isLate : Bool) : List (Bool × Node) → List (String × String)
  | [] => []
  | (barred, m) :: rest =>
    (if takesPart barred isLate m then entriesOf charset direction m (rest.map (·.2)) else []) ++
      entriesFrom (isLate || isSubmitButton m) rest

/-- The entry list of a form. -/
def entries (form : Node) : List (String × String) :=
  entriesFrom charset direction false (below false form)

/-! ## Forms of usual controls -/

def isControl (m : Node) : Bool :=
  ["input", "button", "textarea", "select"].any (isHtml · m)

/-- Inputs that are sent as coordinates, or whose values are dates, numbers or colors. -/
def otherStates : List String :=
  ["image", "date", "month", "week", "time", "datetime-local", "number", "range", "color"]

def isTextOnly (m : Node) : Bool := m.children.all isText

def isOption (c : Node) : Bool := isHtml "option" c && isTextOnly c

def isGroup (c : Node) : Bool := isHtml "optgroup" c && c.children.all fun o => isText o || isOption o

/-- How many options are shown at once. -/
def displaySize (m : Node) : Nat :=
  let digits := (((own m "size").toList.dropWhile isSpace).takeWhile Char.isDigit)
  max 1 ((natOfDigits? 10 digits).getD 0)

structure IsDropDown (m : Node) : Prop where
  single : m.hasAttribute "multiple" = false
  one_line : displaySize m = 1
  parts : ∀ c ∈ m.children, isText c ∨ isOption c ∨ isGroup c

instance (m : Node) : Decidable (IsDropDown m) :=
  decidable_of_iff (m.hasAttribute "multiple" = false ∧ displaySize m = 1 ∧
    ∀ c ∈ m.children, isText c ∨ isOption c ∨ isGroup c)
    ⟨fun ⟨hsingle, hline, hparts⟩ => ⟨hsingle, hline, hparts⟩,
      fun h => ⟨h.single, h.one_line, h.parts⟩⟩

/-- What the forms here are made of: text-like, hidden, password, checkbox, radio, file and submit
inputs, buttons, text areas and drop-down lists, all of the form that they stand in. -/
structure IsUsual (m : Node) : Prop where
  vocabulary : ∀ tag ∈ ["input", "button", "textarea", "select"], m.tag? = some tag →
    isHtml tag m = true
  no_form : m.tag? ≠ some "form"
  owned : isControl m → m.attribute? "form" = none
  input : isHtml "input" m → inputState m ∉ otherStates
  textarea : isHtml "textarea" m → isTextOnly m ∧ ¬ SameButCase (own m "wrap") "hard"
  select : isHtml "select" m → IsDropDown m

instance (m : Node) : Decidable (IsUsual m) :=
  decidable_of_iff ((∀ tag ∈ ["input", "button", "textarea", "select"], m.tag? = some tag →
      isHtml tag m = true) ∧ m.tag? ≠ some "form" ∧
    (isControl m → m.attribute? "form" = none) ∧
    (isHtml "input" m → inputState m ∉ otherStates) ∧
    (isHtml "textarea" m → isTextOnly m ∧ ¬ SameButCase (own m "wrap") "hard") ∧
    (isHtml "select" m → IsDropDown m))
    ⟨fun ⟨hvocabulary, hform, howned, hinput, htextarea, hselect⟩ =>
      ⟨hvocabulary, hform, howned, hinput, htextarea, hselect⟩,
      fun h => ⟨h.vocabulary, h.no_form, h.owned, h.input, h.textarea, h.select⟩⟩

/-- A control on which a form reader that looks at names, types, values and marks alone goes by the
standard. -/
structure IsPlain (barred : Bool) (m : Node) : Prop where
  enabled : isControl m → barred = false ∧ m.hasAttribute "disabled" = false
  button : isHtml "button" m → buttonType m ∈ ["submit", "reset", "button"]
  box : isBox m → m.hasAttribute "checked" → m.attribute? "value" ≠ some ""
  charset : isInput "hidden" m → ¬ SameButCase (own m "name") "_charset_"
  line : isHtml "input" m → sanitize m (own m "value").toList = (own m "value").toList
  lines : isHtml "textarea" m → '\r' ∉ m.textContent
  direction : tellsDirection m → own m "dirname" = ""
  marked : isHtml "select" m → ((optionsOf m).filter (·.2.hasAttribute "selected")).length ≤ 1
  chosen : isHtml "select" m → ∀ o ∈ firstMarked? m, o.1 = false ∧
    (o.2.attribute? "value" = none → ∀ c ∈ o.2.textContent, isBlank c = isSpace c)

/-- The characters of a text are looked through, not all that there are. -/
instance (s : List Char) : Decidable (∀ c ∈ s, isBlank c = isSpace c) := List.decidableBAll _ s

instance (barred : Bool) (m : Node) : Decidable (IsPlain barred m) :=
  decidable_of_iff ((isControl m → barred = false ∧ m.hasAttribute "disabled" = false) ∧
    (isHtml "button" m → buttonType m ∈ ["submit", "reset", "button"]) ∧
    (isBox m → m.hasAttribute "checked" → m.attribute? "value" ≠ some "") ∧
    (isInput "hidden" m → ¬ SameButCase (own m "name") "_charset_") ∧
    (isHtml "input" m → sanitize m (own m "value").toList = (own m "value").toList) ∧
    (isHtml "textarea" m → '\r' ∉ m.textContent) ∧
    (tellsDirection m → own m "dirname" = "") ∧
    (isHtml "select" m → ((optionsOf m).filter (·.2.hasAttribute "selected")).length ≤ 1) ∧
    (isHtml "select" m → ∀ o ∈ firstMarked? m, o.1 = false ∧
      (o.2.attribute? "value" = none → ∀ c ∈ o.2.textContent, isBlank c = isSpace c)))
    ⟨fun ⟨henabled, hbutton, hbox, hcharset, hline, hlines, hdirection, hmarked, hchosen⟩ =>
      ⟨henabled, hbutton, hbox, hcharset, hline, hlines, hdirection, hmarked, hchosen⟩,
      fun h => ⟨h.enabled, h.button, h.box, h.charset, h.line, h.lines, h.direction, h.marked,
        h.chosen⟩⟩

/-- No two radio buttons of one group are checked. -/
def GroupsSingle (ms : List Node) : Prop :=
  ms.Pairwise fun a b =>
    ¬ (isCheckedRadio (own a "name") a = true ∧ isCheckedRadio (own a "name") b = true)

instance (ms : List Node) : Decidable (GroupsSingle ms) :=
  inferInstanceAs (Decidable (List.Pairwise _ ms))

structure IsPlainForm (form : Node) : Prop where
  usual : ∀ e ∈ below false form, IsUsual e.2
  plain : ∀ e ∈ below false form, IsPlain e.1 e.2
  groups : GroupsSingle form.descendants

instance (form : Node) : Decidable (IsPlainForm form) :=
  decidable_of_iff ((∀ e ∈ below false form, IsUsual e.2) ∧
    (∀ e ∈ below false form, IsPlain e.1 e.2) ∧ GroupsSingle form.descendants)
    ⟨fun ⟨husual, hplain, hgroups⟩ => ⟨husual, hplain, hgroups⟩,
      fun h => ⟨h.usual, h.plain, h.groups⟩⟩

end PluginRelease.Form.EntryList
