/-!
Log lines, and how much of the log the user asked to see.
-/
namespace PluginRelease

inductive LogLevel
  | error
  | warn
  | info
  | debug
deriving DecidableEq, Repr

namespace LogLevel

def name : LogLevel → String
  | error => "ERROR"
  | warn => "WARN"
  | info => "INFO"
  | debug => "DEBUG"

/-- Grows with detail. -/
def detail : LogLevel → Nat
  | error => 0
  | warn => 1
  | info => 2
  | debug => 3

end LogLevel

structure LogLine where
  level : LogLevel
  text : String
deriving DecidableEq, Repr

inductive Verbosity
  | quiet
  | verbose
  | debug
deriving DecidableEq, Repr

namespace Verbosity

def ofFlags (verbose debug : Bool) : Verbosity :=
  if debug then .debug else if verbose then .verbose else .quiet

def level : Verbosity → LogLevel
  | quiet => .warn
  | verbose => .info
  | debug => .debug

def shows (v : Verbosity) (l : LogLine) : Bool := l.level.detail ≤ v.level.detail

end Verbosity
end PluginRelease
