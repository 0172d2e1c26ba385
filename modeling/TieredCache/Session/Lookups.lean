import TieredCache.Session.State

/-!
How answers travel through a session: from a layer to the front before it, from the first tier of a
front to the second, and in the end to whoever asked.
-/

namespace TieredCache.Session

/-- The jobs of the further steps of a lookup. -/
def furtherJobs (label : String) (steps : List Step) : List Job :=
  steps.mapIdx fun index step => .begin (label ++ "." ++ toString index) step

/-- Asks the layer behind a front, or the first tier of two. -/
def find (session : Session) (place : FrontPlace) (key : String) (hooks : Hooks)
    (next : Conclusion) : List Job :=
  match session.tiers? place with
  | some _ => [.find ⟨place.index, .firstTier⟩ key hooks (.firstTier place.index key hooks next)]
  | none =>
      match session.cache? place with
      | some (_, layer) => [.work (.ask layer key (.client (.front place key hooks next)))]
      | none => []

def noteConsultations (session : Session) (hooks : Hooks) (consulted : List Consultation) :
    Session :=
  if hooks.reported then consulted.foldl (fun session made => session.note (.consulted made)) session
  else session

/-- A front gets the answer of its layer. -/
def resolve (session : Session) (place : FrontPlace) (key : String) (hooks : Hooks)
    (next : Conclusion) (lookup : Lookup) : Session × List Job :=
  match session.cache? place with
  | none => (session, [])
  | some (cache, _) =>
      let resolution := cache.resolve session.now key hooks.checks lookup
      let resolved := (session.setCache place resolution.cache).signal resolution.signals
      (resolved.noteConsultations hooks resolution.consulted, [.conclude next resolution.outcome])

def inform (session : Session) (callback : Callback) (lookup : Lookup) : Session × List Job :=
  match callback with
  | .report label further => (session.note (.lookup label lookup), furtherJobs label further)
  | .promise number => (session.settleLookup number lookup, [])
  | .front place key hooks next => session.resolve place key hooks next lookup

/-- Nobody will tell the outcome; whoever waits for it takes it for a miss. -/
def forgetConclusion (session : Session) : Conclusion → Session
  | .report _ _ => session
  | .promise number => session.settleOutcome number .notFound
  | .firstTier _ _ _ next | .bothTiers _ _ _ next => session.forgetConclusion next

def forget (session : Session) : Callback → Session
  | .report _ _ => session
  | .promise number => session.settleLookup number .notFound
  | .front _ _ _ next => session.forgetConclusion next

def conclude (session : Session) (next : Conclusion) (outcome : Outcome) : Session × List Job :=
  match next with
  | .report label further => (session.note (.outcome label outcome), furtherJobs label further)
  | .promise number => (session.settleOutcome number outcome, [])
  | .firstTier index key hooks next =>
      if outcome.isFound then
        match session.front? index with
        | some (.tiered tiers first second) =>
            (session.setFront index (.tiered tiers.countFirstHit first second),
              [.conclude next outcome])
        | _ => (session, [.conclude next outcome])
      else (session, [.find ⟨index, .secondTier⟩ key hooks (.bothTiers index key outcome next)])
  | .bothTiers index key first next =>
      match session.front? index with
      | some (.tiered tiers firstLayer secondLayer) =>
          let completion := tiers.complete key first outcome
          let completed :=
            (session.setFront index (.tiered completion.tiers firstLayer secondLayer)).signal
              completion.signals
          let backfill := completion.backfill.toList.map fun content =>
            Job.work (.put firstLayer key content)
          (completed, backfill ++ [.conclude next completion.outcome])
      | _ => (session, [.conclude next outcome])

end TieredCache.Session
