import PluginRelease.Build.Builder
import PluginRelease.CommandLine.Manual
import PluginRelease.CommandLine.Reading

/-!
The command line of the descriptor builder. Of the two flags that ask for a version the last
one counts.
-/
namespace PluginRelease

inductive BuildOption
  | dir
  | archive
  | config
  | format
  | name
  | out
  | printVersion
  | printSavedVersion
  | recipe
  | debug
  | verbose
deriving DecidableEq, Repr

structure BuildArguments where
  command : BuildCommand
  config : Option Path
  verbosity : Verbosity
  overrides : BuildOverrides
deriving DecidableEq, Repr

namespace BuildOption
open CommandLine

def specs : List (Spec BuildOption) :=
  [⟨none, "dir", .value dir, "DIR", "The working directory"⟩,
    ⟨some 'a', "archive", .value archive, "FILENAME", "The plugin distribution archive"⟩,
    ⟨some 'c', "config", .value config, "YAML", "Config file"⟩,
    ⟨none, "format", .value format, "FORMAT",
      "Redistribution format [possible values: zip, vba]"⟩,
    ⟨some 'n', "name", .value name, "NAME", "The plugin name"⟩,
    ⟨some 'o', "out", .value out, "FILENAME",
      "The filename of the YAML output (`-` for stdout)"⟩,
    ⟨none, "print-version", .flag printVersion, "", "Print the plugin's current version number"⟩,
    ⟨none, "print-saved-version", .flag printSavedVersion, "",
      "Print the plugin's last saved version number"⟩,
    ⟨none, "recipe", .value recipe, "FILENAME",
      "A vimball recipe (implies --archive, --name and --out)"⟩,
    ⟨none, "debug", .flag debug, "", "Show debug messages"⟩,
    ⟨some 'v', "verbose", .flag verbose, "", "Run verbosely"⟩,
    ⟨some 'h', "help", .help, "", ""⟩,
    ⟨some 'V', "version", .version, "", "Print version"⟩]

def rivals : BuildOption → List BuildOption
  | printVersion => [printSavedVersion]
  | printSavedVersion => [printVersion]
  | _ => []

/-- A name has to be text and may be empty; with a path it is the other way round. -/
def refusal? : BuildOption → Bytes → Option Stop
  | name, v => if (Utf8.text? v).isSome then none else some .notText
  | format, v =>
    if BuildConfig.formats.any (Utf8.ofText ·.1 == v) then none else some .badValue
  | _, v => if v.isEmpty then some .badValue else none

def grammar : Grammar BuildOption := ⟨specs, rivals, refusal?, (!·.isEmpty)⟩

end BuildOption

namespace BuildArguments
open CommandLine

def commandOf (g : Given BuildOption) : BuildCommand :=
  if g.has .printVersion then .printVersion
  else if g.has .printSavedVersion then .printSavedVersion
  else .write

def formatOf (name : Bytes) : Option ArchiveFormat :=
  (BuildConfig.formats.find? (Utf8.ofText ·.1 == name)).map (·.2)

def ofGiven (g : Given BuildOption) : BuildArguments :=
  let path (o : BuildOption) := (g.value? o).map Path.mk
  { command := commandOf g
    config := path .config
    verbosity := .ofFlags (g.has .verbose) (g.has .debug)
    overrides :=
      { dir := path .dir
        archive := path .archive
        format := (g.value? .format).bind formatOf
        name := (g.value? .name).bind Utf8.text?
        outfile := path .out
        recipe := path .recipe
        files := g.operands.map Path.mk } }

def read (args : List Bytes) : Except Stop BuildArguments :=
  (BuildOption.grammar.read args).map ofGiven

def manual : Manual where
  tool := "vimscriptdef"
  summary := "Build a release descriptor for a Vim plugin"
  details := none
  operand := "FILES"
  operands := "Source files to scan"
  note := "This is free software with ABSOLUTELY NO WARRANTY."

def versionText : String := "vimscriptdef 0.1.0\n"

end BuildArguments
end PluginRelease
