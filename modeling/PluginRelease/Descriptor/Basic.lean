import PluginRelease.Failure
import PluginRelease.Text.Blank
import PluginRelease.Text.Digit

/-!
Release descriptors: what one tool writes about a release and the other publishes. Each of the
four fields may be missing, and a blank one counts as missing where it is required.
-/
namespace PluginRelease

structure Descriptor where
  id : Option String
  version : Option String
  message : Option String
  file : Option String
deriving DecidableEq, Repr, Inhabited

namespace Descriptor
open Text

def empty : Descriptor := ⟨none, none, none, none⟩

def get (d : Descriptor) : Field → Option String
  | .id => d.id
  | .version => d.version
  | .message => d.message
  | .file => d.file

def set (d : Descriptor) (f : Field) (v : Option String) : Descriptor :=
  match f with
  | .id => { d with id := v }
  | .version => { d with version := v }
  | .message => { d with message := v }
  | .file => { d with file := v }

@[simp] theorem get_set (d : Descriptor) (f g : Field) (v : Option String) :
    (d.set f v).get g = if g = f then v else d.get g := by
  cases f <;> cases g <;> rfl

theorem ext_get {d e : Descriptor} (h : ∀ f, d.get f = e.get f) : d = e := by
  cases d
  cases e
  have h1 := h .id
  have h2 := h .version
  have h3 := h .message
  have h4 := h .file
  simp_all [get]

def isBlankValue (v : Option String) : Bool := v.all fun s => isBlankText s.toList

def missingFields (d : Descriptor) : List Field := Field.all.filter fun f => isBlankValue (d.get f)

def isComplete (d : Descriptor) : Bool := d.missingFields.isEmpty

def ensureComplete (d : Descriptor) : Except Failure Unit :=
  if d.missingFields.isEmpty then .ok ()
  else .error (.extract (.incompleteDescriptor d.missingFields))

def idLimit : Nat := Nat.pow 2 64

/-- The number that an ID of digits denotes; zero and numbers of more than 64 bits are none. -/
def idNumber? (id : String) : Option Nat :=
  let digits := trim id.toList
  if digits.isEmpty || !digits.all Char.isDigit then none
  else
    let n := decimalValue digits
    if 0 < n && n < idLimit then some n else none

def numericId? (d : Descriptor) : Option Nat := d.id.bind idNumber?

/-- Fields that are not there at all are taken from `defaults`. -/
def orDefaults (d defaults : Descriptor) : Descriptor :=
  ⟨d.id.or defaults.id, d.version.or defaults.version, d.message.or defaults.message,
    d.file.or defaults.file⟩

@[simp] theorem get_orDefaults (d e : Descriptor) (f : Field) :
    (d.orDefaults e).get f = (d.get f).or (e.get f) := by
  cases f <;> rfl

/-- A scanned ID must be the one that was saved, if there was one. -/
def mergeScriptId (d : Descriptor) : Option String → Except Failure Descriptor
  | none => .ok d
  | some found =>
    match d.id with
    | some expected =>
      if found = expected then .ok d else .error (.extract (.scriptIdMismatch expected found))
    | none => .ok { d with id := some found }

end Descriptor
end PluginRelease
