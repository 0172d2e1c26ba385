import TieredCache.Disk.FileTree
import TieredCache.Front.Outcome
import TieredCache.Remote.ObjectStore
import TieredCache.Settings.Basic

/-!
The steps of a session: what is asked of the clock, the disk, the object store, a layer or a front.
A lookup may bring further steps that are taken when its answer is told.
-/

namespace TieredCache

/-- The caller's checks of a lookup, and whether each of them is reported. -/
structure Hooks where
  checks : Checks := {}
  reported : Bool := false

/-- A file to be written, with its times. -/
structure FileDraft where
  path : Bytes
  content : Bytes
  accessed : FileTime
  modified : FileTime

inductive DiskAction where
  | list
  | read (path : Bytes)
  | write (draft : FileDraft)
  | makeDirectory (path : Bytes)
  | setAccess (path : Bytes) (time : FileTime)
  | remove (path : Bytes)
  | removeHome

inductive ServiceAction where
  | setMode (mode : ServiceMode)
  | resume
  | list
  | insert (target : String) (content : Bytes)

inductive LayerAction where
  | get (key : String)
  | getMany (keys : List String)
  /-- A lookup whose answer is awaited. -/
  | lookup (key : String)
  | lookupMany (keys : List String)
  | lookupValue (key : String)
  | put (key : String) (value : Bytes)
  | delete (key : String)
  | query (key : String)
  | shutDown
  | isHealthy
  | name
  | statistics
  | describe
  | delayKey (key : String)
  | releaseKey (key : String)
  | clean

/-- A change of the rules of a front. -/
inductive FrontChange where
  | force (value : Bool)
  | refuseHtmlOverHttps (value : Bool)
  | failureLifetime (kind : FailureKind) (lifetime : Span)
  | maximumSize (size : Option Nat)
  | implicitLifetime (lifetime : Span)
  | firstTierLimit (limit : Option Nat)

namespace FrontChange

def apply (policy : Policy) : FrontChange → Policy
  | force value => { policy with force := value }
  | refuseHtmlOverHttps value => { policy with refuseHtmlOverHttps := value }
  | failureLifetime kind lifetime => policy.setFailureLifetime kind lifetime
  | maximumSize size => { policy with maximumSize := size }
  | implicitLifetime lifetime => { policy with implicitLifetime := lifetime }
  | firstTierLimit _ => policy

def applyAll (changes : List FrontChange) (policy : Policy) : Policy := changes.foldl apply policy

/-- The limit after some changes. -/
def limitAfter (changes : List FrontChange) (limit : Option Nat) : Option Nat :=
  changes.foldl (fun limit change =>
    match change with
    | firstTierLimit next => next
    | _ => limit) limit

end FrontChange

inductive FrontAction where
  | put (key : String) (head : Head) (body : Bytes)
  | prepare (key : String) (head : Head) (body : Bytes)
  | store (key : String) (head : Head) (body : Bytes) (again : Bool)
  | find (key : String) (hooks : Hooks)
  /-- A lookup whose outcome is awaited. -/
  | lookup (key : String) (hooks : Hooks)
  | delete (key : String)
  | remember (key : String) (kind : FailureKind)
  | ignoreFailures
  | isIgnoringFailures
  | change (changes : List FrontChange)
  | shutDown
  | name
  | statistics
  | policy
  | describe

/-- Part of a front: a front of two tiers can be used as a whole or tier by tier. -/
inductive FrontPart where
  | whole | firstTier | secondTier
  deriving DecidableEq

structure FrontPlace where
  index : Nat
  part : FrontPart := .whole
  deriving DecidableEq

inductive Action where
  | advance (span : Span)
  | setTime (time : Millis)
  | disk (action : DiskAction)
  | service (action : ServiceAction)
  | layer (index : Nat) (action : LayerAction)
  | front (place : FrontPlace) (action : FrontAction)
  /-- Which optional tiers there are. -/
  | listTiers
  /-- Waits for writes to the object store. -/
  | flush
  | shutDownAll
  | nothing

inductive Step where
  | mk (action : Action) (label : Option String) (further : List Step)

namespace Step

instance : Inhabited Step := ⟨.mk .nothing none []⟩

def action : Step → Action
  | mk action _ _ => action

def label? : Step → Option String
  | mk _ label _ => label

def further : Step → List Step
  | mk _ _ further => further

/-- Whether the order of what the step reports is left open. -/
def reportsUnordered (step : Step) : Bool :=
  match step.action with
  | .layer _ .shutDown | .front _ .shutDown | .shutDownAll | .service .resume => true
  | _ => false

/-- How many lookups one step starts. -/
def breadth (step : Step) : Nat :=
  match step.action with
  | .layer _ (.getMany keys) => keys.length
  | .layer _ (.lookupMany keys) => keys.length
  | _ => 1

mutual

/-- How many steps may come of a step. -/
def weight : Step → Nat
  | step@(mk _ _ further) => step.breadth * (1 + weightAll further) + 1

def weightAll : List Step → Nat
  | [] => 0
  | step :: rest => weight step + weightAll rest

end

end Step

end TieredCache
