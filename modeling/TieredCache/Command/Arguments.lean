/-!
The arguments of the command line: a command, its key, and an option that names the settings file. The
option may stand before or after the command, and the later place counts. A row of arguments that
makes no sense is a usage fault.
-/

namespace TieredCache.Command

/-- What a command does. -/
inductive Verb where
  | cleanup | inspect | delete
  deriving DecidableEq

namespace Verb

def all : List Verb := [cleanup, inspect, delete]

def name : Verb → String
  | cleanup => "cleanup"
  | inspect => "inspect"
  | delete => "delete"

def ofName? (name : String) : Option Verb :=
  all.find? (·.name = name)

/-- How many values follow the command. -/
def arity : Verb → Nat
  | cleanup => 0
  | inspect | delete => 1

theorem ofName?_name (verb : Verb) : ofName? verb.name = some verb := by
  cases verb <;> rfl

end Verb

inductive Task where
  | cleanup
  | inspect (key : String)
  | delete (key : String)
  deriving DecidableEq

/-- The task of a command with its values. -/
def Task.ofVerb? : Verb → List String → Option Task
  | .cleanup, [] => some .cleanup
  | .inspect, [key] => some (.inspect key)
  | .delete, [key] => some (.delete key)
  | _, _ => none

structure Invocation where
  settingsFile : Option String
  task : Task
  deriving DecidableEq

/-- What a page of help is about. -/
inductive Topic where
  | overview
  | verb (verb : Verb)
  /-- Asking for help. -/
  | help
  deriving DecidableEq

/-- What the arguments ask for. -/
inductive Request where
  | run (invocation : Invocation)
  | version
  | help (topic : Topic)
  | misuse
  deriving DecidableEq

/-- One argument, as far as it can be told by itself. -/
inductive Token where
  | value (text : String)
  /-- All that follows are values. -/
  | valuesOnly
  /-- A long option and what is attached to it. -/
  | long (name : String) (attached : Option String)
  /-- A row of short options. -/
  | short (letters : List Char)
  deriving DecidableEq

namespace Token

def splitName : List Char → List Char × Option (List Char)
  | [] => ([], none)
  | '=' :: rest => ([], some rest)
  | character :: rest =>
      let (name, attached) := splitName rest
      (character :: name, attached)

def ofText (text : String) : Token :=
  match text.toList with
  | ['-', '-'] => .valuesOnly
  | '-' :: '-' :: rest =>
      let (name, attached) := splitName rest
      .long (String.ofList name) (attached.map String.ofList)
  | '-' :: first :: rest => .short (first :: rest)
  | _ => .value text

end Token

/-- What an option asks for. -/
inductive Choice where
  /-- The settings file, with the name if it is attached. -/
  | settings (attached : Option String)
  | version
  | help
  | unknown
  deriving DecidableEq

def longChoice (name : String) (attached : Option String) : Choice :=
  match name, attached with
  | "config", attached => .settings attached
  | "version", none => .version
  | "help", none => .help
  | _, _ => .unknown

/-- The first letter decides; all that follows it is the name of a settings file. -/
def shortChoice : List Char → Choice
  | ['c'] => .settings none
  | 'c' :: '=' :: name => .settings (some (String.ofList name))
  | 'c' :: name => .settings (some (String.ofList name))
  | 'V' :: _ => .version
  | 'h' :: _ => .help
  | _ => .unknown

def choice : Token → Option Choice
  | .long name attached => some (longChoice name attached)
  | .short letters => some (shortChoice letters)
  | _ => none

/-- The name of the settings file and the remaining arguments: the name is attached to the option or
is the next argument. It may not be empty and may be given once. -/
def settingsName? (given : Option String) (attached : Option String) (rest : List String) :
    Option (String × List String) :=
  if given.isSome then none
  else
    match attached, rest with
    | some name, rest => if name.isEmpty then none else some (name, rest)
    | none, [] => none
    | none, next :: rest =>
        match Token.ofText next with
        | .value name => if name.isEmpty then none else some (name, rest)
        | _ => none

theorem settingsName?_length {given attached : Option String} {rest left : List String}
    {name : String} (found : settingsName? given attached rest = some (name, left)) :
    left.length ≤ rest.length := by
  unfold settingsName? at found
  split at found
  · cases found
  · split at found
    · split at found <;> simp_all
    · cases found
    · split at found
      · split at found <;> simp_all
      · cases found

/-- The options and values after a command. -/
structure Tail where
  settings : Option String := none
  /-- Last first. -/
  values : List String := []

inductive TailResult where
  | done (tail : Tail)
  | help
  | misuse

/-- Reads what follows a command with room for some values; the version is not told there. -/
def readTail (room : Nat) (tail : Tail) : List String → TailResult
  | [] => .done tail
  | first :: rest =>
      match Token.ofText first with
      | .value text =>
          if tail.values.length < room then
            readTail room { tail with values := text :: tail.values } rest
          else .misuse
      | .valuesOnly => .done { tail with values := rest.reverse ++ tail.values }
      | token =>
          match choice token with
          | some .help => .help
          | some (.settings attached) =>
              match found : settingsName? tail.settings attached rest with
              | some (name, left) =>
                  have := settingsName?_length found
                  readTail room { tail with settings := some name } left
              | none => .misuse
          | _ => .misuse
termination_by arguments => arguments.length
decreasing_by all_goals (simp only [List.length_cons]; omega)

/-- The topic that the words after a call for help name. -/
def topic? : List String → Option Topic
  | [] => some .overview
  | ["help"] => some .help
  | [name] => (Verb.ofName? name).map .verb
  | _ => none

def readVerb (settings : Option String) (verb : Verb) (rest : List String) : Request :=
  match readTail verb.arity {} rest with
  | .help => .help (.verb verb)
  | .misuse => .misuse
  | .done tail =>
      match Task.ofVerb? verb tail.values.reverse with
      | some task => .run ⟨tail.settings.or settings, task⟩
      | none => .misuse

def readCommand (settings : Option String) (name : String) (rest : List String) : Request :=
  if name = "help" then (topic? rest).elim .misuse .help
  else (Verb.ofName? name).elim .misuse fun verb => readVerb settings verb rest

/-- Reads the arguments up to the command, and then the rest. -/
def readFrom (settings : Option String) : List String → Request
  | [] => .misuse
  | first :: rest =>
      match Token.ofText first with
      | .value command => readCommand settings command rest
      | .valuesOnly => .misuse
      | token =>
          match choice token with
          | some .version => .version
          | some .help => .help .overview
          | some (.settings attached) =>
              match found : settingsName? settings attached rest with
              | some (name, left) =>
                  have := settingsName?_length found
                  readFrom (some name) left
              | none => .misuse
          | _ => .misuse
termination_by arguments => arguments.length
decreasing_by all_goals (simp only [List.length_cons]; omega)

def read (arguments : List String) : Request := readFrom none arguments

end TieredCache.Command
