import TieredCache.Settings.Basic

/-!
What the parts of a cache report while they work: metrics, and records for the log. A metric is sent
as one line with its own tags first; a log record is a message with named values.
-/

namespace TieredCache

inductive MetricKind where
  | counter | gauge | timer
  deriving DecidableEq

structure Metric where
  name : String
  kind : MetricKind
  /-- The amount; a measured length of time has none that could be foreseen. -/
  amount : Option Nat
  tags : List (String × String)
  deriving DecidableEq

namespace Metric

def count (name : String) (amount : Nat) (tags : List (String × String)) : Metric :=
  ⟨name, .counter, some amount, tags⟩

def MetricKind.symbol : MetricKind → String
  | .counter => "c"
  | .gauge => "g"
  | .timer => "ms"

def tagText (tags : List (String × String)) : String :=
  if tags.isEmpty then ""
  else "|#" ++ ",".intercalate (tags.map fun (name, value) => name ++ ":" ++ value)

/-- The line sent for a metric, below a stem and with tags common to all metrics. -/
def line (stem : String) (common : List (String × String)) (metric : Metric) : String :=
  stem ++ "." ++ metric.name ++ ":" ++ (metric.amount.elim "*" toString) ++ "|" ++
    MetricKind.symbol metric.kind ++ tagText (metric.tags ++ common)

end Metric

/-- The part of the program that writes a log record. -/
inductive LogSource where
  | assembly | fileCache | cleaning | lock | responses | remote | metrics | command | failure
  deriving DecidableEq

def LogSource.target : LogSource → String
  | assembly => "proxycache_service::caching"
  | fileCache => "proxycache_service::caching::fs"
  | cleaning => "proxycache_service::caching::cleanup"
  | lock => "proxycache_service::caching::lock"
  | responses => "proxycache_service::http::cache"
  | remote => "proxycache_service::caching::remote"
  | metrics => "proxycache_service::metrics"
  | command => "proxycache::cli"
  | failure => "proxycache::logging"

inductive LogValue where
  | number (value : Int)
  | flag (value : Bool)
  /-- Text that is shown as it is. -/
  | shown (text : String)
  /-- Text that is shown in quotation marks. -/
  | quoted (text : String)
  deriving DecidableEq

structure LogRecord where
  level : LogLevel
  source : LogSource
  message : String
  fields : List (String × LogValue)
  deriving DecidableEq

inductive Signal where
  | metric (metric : Metric)
  | log (record : LogRecord)
  deriving DecidableEq

namespace Signal

def count (name cache : String) : Signal :=
  .metric (.count name 1 [("cache", cache)])

end Signal

end TieredCache
