import TieredCache.Session.State
import TieredCache.Text.Quoted

/-! Texts that show the settings and the state of fronts and of admission controls. -/

namespace TieredCache.Session

def braced (name : String) (fields : List (String × String)) : String :=
  name ++ " \x7b " ++ ", ".intercalate (fields.map fun (field, value) => field ++ ": " ++ value) ++
    " \x7d"

def optionText (number : Option Nat) : String :=
  number.elim "None" fun number => "Some(" ++ toString number ++ ")"

def flagText (value : Bool) : String := if value then "true" else "false"

def policyText (policy : Policy) : String :=
  braced "HttpCacheConfig" [
    ("fetch_failed_ttl", policy.fetchFailedLifetime.text),
    ("not_cacheable_ttl", policy.notCacheableLifetime.text),
    ("dropped_ttl", policy.droppedLifetime.text),
    ("implicit_ttl", policy.implicitLifetime.text),
    ("max_cacheable_size", optionText policy.maximumSize),
    ("force_caching", flagText policy.force),
    ("disable_html_caching_on_https", flagText policy.refuseHtmlOverHttps)]

def cacheName (session : Session) (layer : Nat) : String :=
  "HttpCache(" ++ session.stack.name layer ++ ")"

def tiersName (session : Session) (first second : Nat) : String :=
  "WriteThroughHttpCache(tier1=" ++ session.cacheName first ++ ", tier2=" ++
    session.cacheName second ++ ")"

def cacheText (session : Session) (cache : ResponseCache) (layer : Nat) : String :=
  braced "HttpCache" [
    ("name", Text.quoted cache.name),
    ("cache", Text.quoted (session.stack.name layer)),
    ("config", policyText cache.policy)]

def tiersText (session : Session) (tiers : TwoTier) (first second : Nat) : String :=
  braced "WriteThroughHttpCache" [
    ("tier1", session.cacheText tiers.first first),
    ("tier2", session.cacheText tiers.second second)]

def admissionText (session : Session) (index : Nat) : String :=
  match session.stack.layer? index with
  | some (.admission inner admission) =>
      braced "CacheBatcher" [
        ("cache", Text.quoted (session.stack.name inner)),
        ("config", braced "BatcherConfig" [
          ("max_parallel_lookups", toString admission.limit),
          ("max_queue_size", toString admission.settings.maximumQueue)]),
        ("in_flight", toString admission.inFlight),
        ("queued", toString admission.queue.length)]
  | _ => ""

end TieredCache.Session
