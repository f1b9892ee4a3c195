import PluginRelease.Html.Draft.Basic

/-!
Formatting elements. They are opened again wherever text goes on after they were closed from
outside, and an end tag in the wrong order splits them.
-/
namespace PluginRelease.Html.Draft

abbrev Format := Nat × Tag

/-- The entries after the last marker, the last one first. -/
def recentFormats (d : Draft) : List Format :=
  (d.formatting.takeWhile Option.isSome).filterMap id

def findFormat? (d : Draft) (i : Nat) : Option Format :=
  (d.formatting.filterMap id).find? (·.1 = i)

def removeFormat (d : Draft) (i : Nat) : Draft :=
  { d with formatting := d.formatting.filter fun e => !e.any (·.1 = i) }

def mark (d : Draft) : Draft := { d with formatting := none :: d.formatting }

def clearToMark (d : Draft) : Draft :=
  { d with formatting := (d.formatting.dropWhile Option.isSome).tail }

/-- The attributes may stand in any order. -/
def sameTag (a b : Tag) : Bool :=
  a.name = b.name && a.attributes.length = b.attributes.length &&
    a.attributes.all b.attributes.contains

/-- Of equal entries after the last marker only the last two stay. -/
def makeRoom (d : Draft) (t : Tag) : Draft :=
  let equal := d.recentFormats.filter fun e => sameTag t e.2
  match equal.getLast? with
  | some e => if 3 ≤ equal.length then d.removeFormat e.1 else d
  | none => d

/-- Opens an element that formats. -/
def openFormat (d : Draft) (t : Tag) : Draft :=
  let d := (d.makeRoom t).openTag t
  { d with formatting := d.current?.map (·, t) :: d.formatting }

private def reopen (x : Draft × List (Option Format)) (e : Option Format) :
    Draft × List (Option Format) :=
  match e with
  | none => x
  | some (_, t) =>
    let d := x.1.openTag t
    (d, d.current?.map (·, t) :: x.2)

/-- Opens again what is no longer open. -/
def reconstruct (d : Draft) : Draft :=
  let isClosed (e : Option Format) : Bool := e.any fun f => !d.stack.contains f.1
  let closed := d.formatting.takeWhile isClosed
  let kept := d.formatting.drop closed.length
  let (d, opened) := closed.reverse.foldl reopen (d, [])
  { d with formatting := opened ++ kept }

/-- An end tag without rules of its own closes the nearest element with its tag, unless a special
element stands between. -/
def closeOther (d : Draft) (tag : String) : Draft :=
  let isStop (i : Nat) : Bool := d.isTag tag i || d.is ElementName.isSpecial i
  match d.stack.find? isStop with
  | none => d
  | some i =>
    if d.isTag tag i then
      let d := d.implyEndsExcept tag
      { d with stack := (d.stack.dropWhile (· ≠ i)).tail }
    else d

/-- Part of a split: the last node that was moved, and the first copy made. -/
structure Split where
  draft : Draft
  last : Nat
  bookmark : Option Nat

def replaceOpen (d : Draft) (i j : Nat) : Draft :=
  { d with stack := d.stack.map fun x => if x = i then j else x }

def replaceFormat (d : Draft) (i : Nat) (f : Format) : Draft :=
  { d with formatting := d.formatting.map fun e => if e.any (·.1 = i) then some f else e }

/-- Copies an element between the formatting element and the block, and puts the last node into
the copy; after three only what was closed goes on. -/
def splitStep (block : Nat) (s : Split) (node : Nat × Nat) : Split :=
  let (count, i) := node
  let d := s.draft
  match d.findFormat? i with
  | none => { s with draft := d.close i }
  | some (_, t) =>
    if 3 ≤ count then { s with draft := (d.removeFormat i).close i }
    else
      let (d, j) := d.create (.html t.name) t.attributes
      let d := (d.replaceOpen i j).replaceFormat i (j, t)
      let bookmark := if s.last = block then some j else s.bookmark
      ⟨(d.detach s.last).attach s.last (.last j), j, bookmark⟩

def insertBeforeEntry (l : List (Option Format)) (b : Nat) (f : Format) : List (Option Format) :=
  let isBookmark (e : Option Format) : Bool := e.any (·.1 = b)
  l.takeWhile (!isBookmark ·) ++ some f :: l.dropWhile (!isBookmark ·)

/-- Splits a formatting element around a block that is still open inside it. -/
def splitAround (d : Draft) (f : Format) (block : Nat) : Draft :=
  let between := (((d.stack.takeWhile (· ≠ f.1)).dropWhile (· ≠ block)).tail).zipIdx
  let ancestor := ((d.stack.dropWhile (· ≠ f.1)).tail).headD pageRoot
  let s := between.foldl (fun s x => splitStep block s (x.2, x.1)) ⟨d, block, none⟩
  let d := s.draft.detach s.last
  let d := d.attach s.last (d.placeIn ancestor)
  let (d, j) := d.create (.html f.2.name) f.2.attributes
  let d := (d.moveChildren block j).attach j (.last block)
  let d := match s.bookmark with
    | none => d.replaceFormat f.1 (j, f.2)
    | some b =>
      ({ d with formatting := insertBeforeEntry d.formatting b (j, f.2) } : Draft).removeFormat f.1
  let d := d.close f.1
  { d with stack := insertBefore d.stack block j }

/-- One round of closing a formatting element; `none` when nothing is left to do. -/
def closeFormatOnce (d : Draft) (tag : String) : Draft × Bool :=
  match d.recentFormats.find? (·.2.name = tag) with
  | none => (d.closeOther tag, false)
  | some f =>
    if !d.stack.contains f.1 then (d.removeFormat f.1, false)
    else if !d.scopeContains .default (· = f.1) d.stack then (d, false)
    else
      let above := d.stack.takeWhile (· ≠ f.1)
      match above.reverse.find? (d.is ElementName.isSpecial) with
      | none =>
        (({ d with stack := (d.stack.dropWhile (· ≠ f.1)).tail } : Draft).removeFormat f.1, false)
      | some block => (d.splitAround f block, true)

def closeFormatRounds (tag : String) : Nat → Draft → Draft
  | 0, d => d
  | rounds + 1, d =>
    match d.closeFormatOnce tag with
    | (d, true) => closeFormatRounds tag rounds d
    | (d, false) => d

/-- The end tag of a formatting element. -/
def closeFormat (d : Draft) (tag : String) : Draft :=
  match d.current? with
  | some i =>
    if d.isTag tag i && (d.findFormat? i).isNone then d.pop else closeFormatRounds tag 8 d
  | none => d

end PluginRelease.Html.Draft
