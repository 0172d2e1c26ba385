import TieredCache.Command.Arguments
import TieredCache.Command.Collector
import TieredCache.Command.Help
import TieredCache.Command.Output
import TieredCache.Session.Assembly
import TieredCache.Session.Run
import TieredCache.Settings.Read

/-!
Running a command: the settings are loaded, the tiers assembled and the task done; then writes are
waited for and all tiers shut down. An error goes to the log once there is one, and before that to
the error output.
-/

namespace TieredCache.Command

inductive CommandError where
  | settings
  | collector (cause : AddressError)
  | assembly (cause : AssemblyError)
  | nothingToClean
  | cleaning (cause : IoError)
  | incomplete
  deriving DecidableEq

namespace CommandError

def message : CommandError → String
  | settings => "failed loading config"
  | collector _ => "failed to resolve statsd host"
  | assembly cause => cause.message
  | nothingToClean => "no cache_dir configured, nothing to clean"
  | cleaning _ => "failed to clean up caches"
  | incomplete => "some files could not be cleaned up"

/-- What lies behind an error. -/
def cause? : CommandError → Option String
  | collector cause => some cause.message
  | assembly (.unopenable _ cause) => some cause.message
  | cleaning cause => some cause.message
  | _ => none

/-- The message with its cause below it. -/
def text (error : CommandError) : String :=
  error.message ++ (error.cause?.elim "" fun cause => "\n\nCaused by:\n    " ++ cause)

end CommandError

/-- Where a command runs. -/
structure Surroundings where
  tree : FileTree
  now : Millis
  random : Nat := 0
  service : Service := {}
  /-- Whether the log is off, whatever the settings say. -/
  silent : Bool := false
  /-- The directory that relative names start from. -/
  directory : FilePath := []

/-- What a command leaves behind. -/
structure Execution where
  tree : FileTree
  exitCode : Nat
  output : List Output := []
  /-- What goes to the error output. -/
  error : Option CommandError := none

/-- A task that was done: what it printed and whether it failed. -/
structure Done where
  session : Session
  output : List Output
  error : Option CommandError := none

def recordsOf (signals : List Signal) : List Output :=
  signals.filterMap fun
    | .log record => some (.record record)
    | .metric _ => none

def note (message : String) (fields : List (String × LogValue)) : Output :=
  .record ⟨.info, .command, message, fields⟩

def cleanedNote (root : Route) (report : CleanReport) : Output :=
  note ("Cleaned " ++ root.shown) [
    ("size_before", .number report.sizeBefore),
    ("inodes_before", .number report.inodesBefore),
    ("evicted_files", .number report.evictedFiles),
    ("freed_bytes", .number report.freedBytes),
    ("removed_dirs", .number report.removedDirectories)]

def diskRoot? (session : Session) : Option (Nat × Route) := do
  let place ← (← session.tiers).disk
  match session.stack.layer? place with
  | some (.disk store) => some (place, store.root)
  | _ => none

/-- The front of the assembled caches. -/
def usedFront (session : Session) : FrontPlace := ⟨session.tiers.elim 0 (·.front), .whole⟩

def cleanUp (session : Session) : Done :=
  match diskRoot? session with
  | none => ⟨session, [], some .nothingToClean⟩
  | some (place, root) =>
      let (next, report) := session.take 0 (.mk (.layer place .clean) none [])
      let records := recordsOf report.signals
      match report.reply with
      | .cleaned (.ran cleaned) =>
          ⟨next, records ++ [cleanedNote root cleaned],
            if cleaned.success then none else some .incomplete⟩
      | .cleaned .skipped =>
          ⟨next, records ++ [note "Another process is cleaning the cache directory" []], none⟩
      | .cleaned (.failed cause) => ⟨next, records, some (.cleaning cause)⟩
      | _ => ⟨next, records, none⟩

def inspect (session : Session) (key : String) : Done :=
  let (next, report) := session.take 0 (.mk (.front (usedFront session) (.lookup key {})) none [])
  let outcome := match report.reply with
    | .outcome outcome => outcome
    | _ => .notFound
  ⟨next, recordsOf report.signals ++ (inspection key outcome).map .line, none⟩

def delete (session : Session) (key : String) : Done :=
  let (next, report) := session.take 0 (.mk (.front (usedFront session) (.delete key)) none [])
  ⟨next, recordsOf report.signals, none⟩

def doTask (session : Session) : Task → Done
  | .cleanup => cleanUp session
  | .inspect key => inspect session key
  | .delete key => delete session key

/-- Waits for writes and shuts everything down. -/
def finish (session : Session) : Session × List Output :=
  let (flushed, first) := session.take 1 (.mk .flush none [])
  let (closed, second) := flushed.take 2 (.mk .shutDownAll none [])
  (closed, recordsOf (first.signals ++ second.signals))

/-- The settings that a command runs with; without a file everything is at its default. -/
def loadSettings (surroundings : Surroundings) (file : Option String) : Option Settings :=
  match file with
  | none => some {}
  | some name =>
      match surroundings.tree.read ⟨Text.bytes name, surroundings.directory⟩ with
      | .error _ => none
      | .ok document => (Settings.read document).toOption

/-- The record of the collector in use. -/
def collectorRecords (settings : Settings) : Except CommandError (List Output) :=
  match settings.metrics.statsd with
  | none => .ok []
  | some host =>
      match collectorAddress host with
      | .ok address =>
          .ok [.record ⟨.info, .metrics, "Reporting metrics to statsd at " ++ address, []⟩]
      | .error cause => .error (.collector cause)

def keptOutput (surroundings : Surroundings) (settings : Settings) (output : List Output) :
    List Output :=
  output.filter fun
    | .line _ => true
    | .record record => !surroundings.silent && admits settings.logging.level record

/-- The end of a command whose log is set up. -/
def conclude (surroundings : Surroundings) (settings : Settings) (tree : FileTree)
    (output : List Output) (error : Option CommandError) : Execution :=
  match error with
  | none => { tree, exitCode := 0, output := keptOutput surroundings settings output }
  | some error =>
      let failure : Output := .record ⟨.error, .failure, error.text, []⟩
      { tree
        exitCode := 1
        output := keptOutput surroundings settings (output ++ [failure])
        error := if surroundings.silent then some error else none }

def assembleAll (surroundings : Surroundings) (settings : Settings) :
    Except AssemblyError (Session × List Output) := do
  let empty : Session :=
    { stack := { layers := [], tree := surroundings.tree, now := surroundings.now } }
  let session ← empty.assemble settings
    { random := surroundings.random, directory := surroundings.directory }
  let signals := session.stack.signals.reverse
  return ({ session with
      service := surroundings.service
      stack := { session.stack with signals := [] } },
    recordsOf signals)

/-- Runs a task with the settings it needs. -/
def runWith (surroundings : Surroundings) (settings : Settings) (task : Task) : Execution :=
  match collectorRecords settings with
  | .error error => conclude surroundings settings surroundings.tree [] (some error)
  | .ok reported =>
      match assembleAll surroundings settings with
      | .error cause =>
          conclude surroundings settings surroundings.tree reported (some (.assembly cause))
      | .ok (session, assembled) =>
          let done := doTask session task
          let (closed, last) := finish done.session
          conclude surroundings settings closed.stack.tree
            (reported ++ assembled ++ done.output ++ last) done.error

def versionLine : String := programName ++ " 0.1.0"

/-- Runs the command line with its arguments. -/
def execute (surroundings : Surroundings) (arguments : List String) : Execution :=
  let tree := surroundings.tree
  match read arguments with
  | .misuse => { tree, exitCode := 2 }
  | .help topic => { tree, exitCode := 0, output := (helpPage topic).map .line }
  | .version => { tree, exitCode := 0, output := [.line versionLine] }
  | .run invocation =>
      match loadSettings surroundings invocation.settingsFile with
      | none => { tree, exitCode := 1, error := some .settings }
      | some settings => runWith surroundings settings invocation.task

/-- The file that the settings of a command come from. -/
def settingsFile? (directory : FilePath) (arguments : List String) : Option Route :=
  match read arguments with
  | .run invocation => invocation.settingsFile.map fun name => ⟨Text.bytes name, directory⟩
  | _ => none

/-- The settings of the command that arguments ask for, if they ask for one. -/
def settingsOf (surroundings : Surroundings) (arguments : List String) : Option Settings :=
  match read arguments with
  | .run invocation => loadSettings surroundings invocation.settingsFile
  | _ => none

/-- The directory that a command keeps its entries in. -/
def cacheRoot? (surroundings : Surroundings) (arguments : List String) : Option Route := do
  let directory ← (← settingsOf surroundings arguments).directory
  return ⟨Text.bytes directory, surroundings.directory⟩

/-- The format of the log of a command. -/
def logFormat (surroundings : Surroundings) (arguments : List String) : LogFormat :=
  ((settingsOf surroundings arguments).map (·.logging.format)).getD .auto

end TieredCache.Command
