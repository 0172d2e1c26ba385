import TieredCache.Entries
import TieredCache.Remote.Store

/-!
An object store: a map from the targets of requests to contents. Its mode says how it answers.
-/

namespace TieredCache

inductive ServiceMode where
  | serving
  /-- Every request gets this status. -/
  | scripted (status : Nat)
  | silent
  | closing
  /-- Answers end before their declared length. -/
  | truncating
  /-- Requests wait. -/
  | holding
  deriving DecidableEq

structure ObjectStore where
  mode : ServiceMode := .serving
  objects : List (String × Bytes) := []

namespace ObjectStore

def insert (store : ObjectStore) (target : String) (content : Bytes) : ObjectStore :=
  { store with objects := Entries.insert store.objects target content }

def erase (store : ObjectStore) (target : String) : ObjectStore :=
  { store with objects := Entries.erase store.objects target }

/-- Acts on a request and answers it. -/
def serve (store : ObjectStore) (target : String) : Exchange → ObjectStore × ServiceAnswer
  | .fetch =>
      match store.objects.lookup target with
      | some content => (store, .answered 200 (some content))
      | none => (store, .answered 404 (some []))
  | .store content => (store.insert target content, .answered 201 (some []))
  | .remove =>
      match store.objects.lookup target with
      | some _ => (store.erase target, .answered 204 (some []))
      | none => (store, .answered 404 (some []))

/-- A fetch after an upload to the same target answers what was uploaded. -/
theorem serve_fetch_store (store : ObjectStore) (target : String) (content : Bytes) :
    ((store.serve target (.store content)).1.serve target .fetch).2 = .answered 200 (some content) := by
  simp [serve, insert, Entries.lookup_insert_self]

def scriptedBody (status : Nat) : Bytes :=
  if status = 204 || status = 304 then [] else Text.bytes "scripted"

/-- The same answer without the end of its body. -/
def withoutEnd : ServiceAnswer → ServiceAnswer
  | .answered status _ => .answered status none
  | other => other

def respond (store : ObjectStore) (target : String) (exchange : Exchange) :
    ObjectStore × ServiceAnswer :=
  match store.mode with
  | .serving | .holding => store.serve target exchange
  | .scripted status => (store, .answered status (some (scriptedBody status)))
  | .silent => (store, .timedOut)
  | .closing => (store, .broken)
  | .truncating =>
      let (next, response) := store.serve target exchange
      (next, withoutEnd response)

end ObjectStore

end TieredCache
