import PluginRelease.CommandLine.Manual
import PluginRelease.CommandLine.Reading
import PluginRelease.Log
import PluginRelease.Publish.Config

/-!
The command line of the publisher. Of the flags for and against a dry run the last one counts.
-/
namespace PluginRelease

inductive PublishOption
  | config
  | id
  | file
  | message
  | messageFile
  | version
  | password
  | username
  | site
  | dryRun
  | noDryRun
  | debug
  | verbose
deriving DecidableEq, Repr

structure PublishArguments where
  config : Option Path
  verbosity : Verbosity
  descriptors : List Path
  overrides : PublishOverrides
deriving DecidableEq, Repr

namespace PublishOption
open CommandLine

def specs : List (Spec PublishOption) :=
  [⟨some 'c', "config", .value config, "YAML", "Config file"⟩,
    ⟨none, "id", .value id, "ID", "The script ID"⟩,
    ⟨none, "file", .value file, "FILENAME", "The plugin file"⟩,
    ⟨none, "message", .value message, "TEXT", "The version comment"⟩,
    ⟨none, "message-file", .value messageFile, "FILENAME",
      "A file containing the version comment"⟩,
    ⟨none, "version", .value version, "TEXT", "The script version"⟩,
    ⟨none, "password", .value password, "TEXT", "User password"⟩,
    ⟨none, "username", .value username, "TEXT", "User name"⟩,
    ⟨none, "site", .value site, "URL", "Base URL of the site"⟩,
    ⟨some 'n', "dry-run", .flag dryRun, "",
      "Don't actually upload anything; just print what would be sent"⟩,
    ⟨none, "no-dry-run", .flag noDryRun, "",
      "Upload even if the config file asks for a dry run"⟩,
    ⟨none, "debug", .flag debug, "", "Show debug messages"⟩,
    ⟨some 'v', "verbose", .flag verbose, "", "Run verbosely"⟩,
    ⟨some 'h', "help", .help, "", ""⟩]

def rivals : PublishOption → List PublishOption
  | dryRun => [noDryRun]
  | noDryRun => [dryRun]
  | _ => []

/-- A path may not be empty, and what is no path has to be text. -/
def refusal? : PublishOption → Bytes → Option Stop
  | config, v => if v.isEmpty then some .badValue else none
  | messageFile, v => if v.isEmpty then some .badValue else none
  | _, v => if (Utf8.text? v).isSome then none else some .notText

def grammar : Grammar PublishOption := ⟨specs, rivals, refusal?, (!·.isEmpty)⟩

end PublishOption

namespace PublishArguments
open CommandLine

def dryOf (g : Given PublishOption) : Option Bool :=
  if g.has .dryRun then some true else if g.has .noDryRun then some false else none

def ofGiven (g : Given PublishOption) : PublishArguments :=
  let text (o : PublishOption) := (g.value? o).bind Utf8.text?
  { config := (g.value? .config).map Path.mk
    verbosity := .ofFlags (g.has .verbose) (g.has .debug)
    descriptors := g.operands.map Path.mk
    overrides :=
      { id := text .id
        file := text .file
        message := text .message
        messageFile := (g.value? .messageFile).map Path.mk
        version := text .version
        username := text .username
        password := text .password
        site := text .site
        dry := dryOf g } }

def read (args : List Bytes) : Except Stop PublishArguments :=
  (PublishOption.grammar.read args).map ofGiven

def manual : Manual where
  tool := "vimscriptuploader"
  summary := "Upload new plugin versions to www.vim.org"
  details := some <|
    "Descriptor files are YAML with the fields `id` (script ID on www.vim.org), `version`, " ++
    "`message` (the version comment) and `file` (the file to upload)."
  operand := "PLUGIN.yml"
  operands := "Release descriptor files (PLUGIN.yml ...)"
  note := "This is free software with ABSOLUTELY NO WARRANTY."

end PublishArguments
end PluginRelease
