import TieredCache.Session.Texts

/-!
Steps that use a front. A front of two tiers prepares a response once, with its second tier, and
writes the same octets to both.
-/

namespace TieredCache.Session

/-- Puts the octets of a write into a layer. -/
def putJobs (layer : Nat) (key : String) (content : Option Bytes) : List Job :=
  content.toList.map fun content => .work (.put layer key content)

/-- Lookups go the same way for all fronts. -/
def startFind (session : Session) (label : String) (further : List Step) (place : FrontPlace)
    (key : String) (hooks : Hooks) : Started :=
  ⟨session, [.find place key hooks (.report label further)], fun _ => .nothing⟩

def startFrontLookup (session : Session) (place : FrontPlace) (key : String) (hooks : Hooks) :
    Started :=
  let (promised, number) := session.promise
  ⟨promised, [.find place key hooks (.promise number)], fun session =>
    (session.outcomes.lookup number).elim .pending .outcome⟩

def startCache (session : Session) (label : String) (further : List Step) (place : FrontPlace)
    (cache : ResponseCache) (layer : Nat) (action : FrontAction) : Started :=
  let written (key : String) (write : ResponseCache.Write) (reply : Reply) : Started :=
    ⟨(session.setCache place write.cache).signal write.signals,
      putJobs layer key (some write.content), fun _ => reply⟩
  match action with
  | .put key head body =>
      match cache.prepare session.now key head body with
      | .ok stored => written key (cache.store stored false) (.putResult none)
      | .error reason =>
          (session.signal (ResponseCache.refused key reason)).answered (.putResult (some reason))
  | .prepare key head body =>
      session.answered (.prepared (cache.prepare session.now key head body))
  | .store key head body again =>
      match Stored.encode head body with
      | .ok stored => written key (cache.store stored again) .nothing
      | .error _ => session.answered .nothing
  | .find key hooks => session.startFind label further place key hooks
  | .lookup key hooks => session.startFrontLookup place key hooks
  | .delete key =>
      ⟨session.setCache place cache.countDelete, [.work (.delete layer key)], fun _ => .nothing⟩
  | .remember key kind =>
      match cache.remember session.now kind with
      | some write => written key write .nothing
      | none => session.answered .nothing
  | .ignoreFailures => (session.setCache place cache.ignoreFailures).answered .nothing
  | .isIgnoringFailures => session.answered (.flag cache.ignoresFailures)
  | .change changes =>
      (session.setCache place (cache.changePolicy (FrontChange.applyAll changes))).answered .nothing
  | .shutDown => ⟨session, [.work (.shutDown layer)], fun _ => .nothing⟩
  | .name => session.answered (.text (session.cacheName layer))
  | .statistics => session.answered (.counts cache.counts)
  | .policy => session.answered (.policy cache.policy)
  | .describe => session.answered (.text (session.cacheText cache layer))

def startTiers (session : Session) (label : String) (further : List Step) (place : FrontPlace)
    (tiers : TwoTier) (first second : Nat) (action : FrontAction) : Started :=
  let updated (next : TwoTier) : Session := session.setFront place.index (.tiered next first second)
  match action with
  | .put key head body =>
      match tiers.second.prepare session.now key head body with
      | .error reason => session.answered (.putResult (some reason))
      | .ok stored =>
          let write := tiers.store key stored
          ⟨(updated write.tiers).signal write.signals,
            putJobs second key write.second ++ putJobs first key write.first,
            fun _ => .putResult none⟩
  | .find key hooks => session.startFind label further place key hooks
  | .lookup key hooks => session.startFrontLookup place key hooks
  | .delete key =>
      ⟨updated tiers.countDelete, [.work (.delete first key), .work (.delete second key)],
        fun _ => .nothing⟩
  | .remember key kind =>
      let write := tiers.remember session.now kind
      ⟨(updated write.tiers).signal write.signals,
        putJobs first key write.first ++ putJobs second key write.second, fun _ => .nothing⟩
  | .ignoreFailures => (updated tiers.ignoreFailures).answered .nothing
  | .change changes =>
      let limited := { tiers with limit := FrontChange.limitAfter changes tiers.limit }
      (updated (limited.changePolicy (FrontChange.applyAll changes))).answered .nothing
  | .shutDown =>
      ⟨session, [.work (.shutDown first), .work (.shutDown second)], fun _ => .nothing⟩
  | .name => session.answered (.text (session.tiersName first second))
  | .statistics =>
      session.answered <|
        if session.tiers.any (·.front = place.index) then .counts tiers.totals
        else .tierCounts tiers.first.counts tiers.second.counts tiers.counts
  | .describe => session.answered (.text (session.tiersText tiers first second))
  | .prepare .. | .store .. | .isIgnoringFailures | .policy => session.answered .nothing

def startFront (session : Session) (label : String) (further : List Step) (place : FrontPlace)
    (action : FrontAction) : Started :=
  match session.tiers? place with
  | some (tiers, first, second) =>
      session.startTiers label further place tiers first second action
  | none =>
      match session.cache? place with
      | some (cache, layer) => session.startCache label further place cache layer action
      | none => session.answered .nothing

end TieredCache.Session
