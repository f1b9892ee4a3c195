/-!
The fields of a release descriptor, in the order in which they are written.
-/
namespace PluginRelease

inductive Field
  | id
  | version
  | message
  | file
deriving DecidableEq, Repr

namespace Field

def all : List Field := [id, version, message, file]

theorem mem_all (f : Field) : f ∈ all := by cases f <;> decide

def name : Field → String
  | id => "id"
  | version => "version"
  | message => "message"
  | file => "file"

def ofName? (s : String) : Option Field := all.find? (·.name == s)

@[simp] theorem ofName?_name (f : Field) : ofName? f.name = some f := by cases f <;> rfl

end Field
end PluginRelease
