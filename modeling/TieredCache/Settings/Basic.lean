import TieredCache.Time.Clock
import TieredCache.Url.Basic
import TieredCache.Response.Failure
import TieredCache.Text.Basic

/-! What a deployment of the caches may set, and the values in force when nothing is set. -/

namespace TieredCache

inductive LogLevel where
  | off | error | warn | info | debug | trace
  deriving DecidableEq

namespace LogLevel

def all : List LogLevel := [off, error, warn, info, debug, trace]

def name : LogLevel → String
  | off => "off"
  | error => "error"
  | warn => "warn"
  | info => "info"
  | debug => "debug"
  | trace => "trace"

def ofName? (name : String) : Option LogLevel :=
  all.find? (·.name = name)

end LogLevel

inductive LogFormat where
  | auto | pretty | simplified | json
  deriving DecidableEq

namespace LogFormat

def all : List LogFormat := [auto, pretty, simplified, json]

def name : LogFormat → String
  | auto => "Auto"
  | pretty => "Pretty"
  | simplified => "Simplified"
  | json => "Json"

/-- The format with the given name in lower case. -/
def ofName? (name : String) : Option LogFormat :=
  all.find? fun format => Text.lowerAscii format.name.toList = name.toList

end LogFormat

structure LoggingSettings where
  level : LogLevel := .info
  format : LogFormat := .auto
  backtraces : Bool := true

structure MetricSettings where
  statsd : Option String := none
  stem : String := "proxycache"
  hostnameTag : Option String := none
  customTags : List (String × String) := []

structure MemorySettings where
  capacity : Nat := 104857600

structure DiskSettings where
  targetSize : Nat := 104857600
  targetInodes : Option Nat := none
  cleanInterval : Span := .ofSeconds 3600
  lockTimeout : Span := .ofSeconds 60

/-- When responses are stored, and for how long. -/
structure Policy where
  fetchFailedLifetime : Span := .ofSeconds 300
  notCacheableLifetime : Span := .ofSeconds 300
  droppedLifetime : Span := .ofSeconds 10
  implicitLifetime : Span := .ofSeconds 300
  maximumSize : Option Nat := none
  force : Bool := false
  refuseHtmlOverHttps : Bool := false
  deriving DecidableEq

namespace Policy

/-- How long a failure of the kind is remembered. -/
def failureLifetime (policy : Policy) : FailureKind → Span
  | .fetchFailed => policy.fetchFailedLifetime
  | .notCacheable => policy.notCacheableLifetime
  | .dropped => policy.droppedLifetime

def setFailureLifetime (policy : Policy) (kind : FailureKind) (lifetime : Span) : Policy :=
  match kind with
  | .fetchFailed => { policy with fetchFailedLifetime := lifetime }
  | .notCacheable => { policy with notCacheableLifetime := lifetime }
  | .dropped => { policy with droppedLifetime := lifetime }

end Policy

structure AdmissionSettings where
  maximumParallel : Nat := 16
  maximumQueue : Nat := 200

structure RemoteSettings where
  base : Url
  connectTimeout : Span := .ofMilliseconds 500
  storeTimeout : Span := .ofSeconds 60

structure Settings where
  directory : Option String := none
  logging : LoggingSettings := {}
  metrics : MetricSettings := {}
  memory : MemorySettings := {}
  disk : DiskSettings := {}
  policy : Policy := {}
  /-- Entries that reach this size together with their key stay out of the first tier. -/
  firstTierLimit : Option Nat := none
  admission : AdmissionSettings := {}
  remote : Option RemoteSettings := none

end TieredCache
