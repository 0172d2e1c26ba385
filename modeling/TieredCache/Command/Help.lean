import TieredCache.Command.Arguments
import TieredCache.Text.Basic

/-!
Pages of help: what a command does, how it is used, and its values and options in two columns. The
second column begins two places behind the longest entry of the first.
-/

namespace TieredCache.Command

def programName : String := "proxycache"

/-- An entry of a page and its explanation. -/
abbrev HelpEntry := String × String

def Verb.summary : Verb → String
  | cleanup => "Clean the cache directory down to its configured quota"
  | inspect => "Look up a key in all cache tiers and print what they hold"
  | delete => "Remove a key from all cache tiers"

def helpSummary : String := "Print this message or the help of the given subcommand(s)"

/-- A headed part of a page; without entries there is none. -/
def helpPart (heading : String) (entries : List HelpEntry) : List String :=
  let width := (entries.map (·.1.length)).foldl max 0
  if entries.isEmpty then []
  else "" :: (heading ++ ":") ::
    entries.map fun (entry, explanation) => "  " ++ Text.padEnd width entry ++ "  " ++ explanation

def commandEntries : List HelpEntry :=
  Verb.all.map (fun verb => (verb.name, verb.summary)) ++ [("help", helpSummary)]

def optionEntries : List HelpEntry :=
  [("-c, --config <FILE>", "Path to your configuration file"), ("-h, --help", "Print help")]

def versionEntry : HelpEntry := ("-V, --version", "Print version")

def valueEntries (verb : Verb) : List HelpEntry :=
  if verb.arity = 0 then [] else [("<KEY>", "The cache key")]

/-- The first lines of a page: a summary and the form of the arguments. -/
def helpHead (summary : String) (words : List String) : List String :=
  [summary, "", "Usage: " ++ " ".intercalate (programName :: words)]

/-- The lines of a page. -/
def helpPage : Topic → List String
  | .overview =>
      helpHead "Command line interface parser" ["[OPTIONS]", "<COMMAND>"] ++
        helpPart "Commands" commandEntries ++ helpPart "Options" (optionEntries ++ [versionEntry])
  | .verb verb =>
      helpHead verb.summary (verb.name :: "[OPTIONS]" :: (valueEntries verb).map (·.1)) ++
        helpPart "Arguments" (valueEntries verb) ++ helpPart "Options" optionEntries
  | .help =>
      helpHead helpSummary ["help", "[COMMAND]..."] ++
        helpPart "Arguments" [("[COMMAND]...", "Print help for the subcommand(s)")]

/-- What is said when the arguments make no sense. -/
def usageLine : String := "Usage: " ++ programName ++ " [OPTIONS] <COMMAND>"

end TieredCache.Command
