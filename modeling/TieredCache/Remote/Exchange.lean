import TieredCache.Fault
import TieredCache.Url.Basic

/-!
What is sent to an object store and what comes back. A request may be impossible to send, it may fail
before it reaches the store, its answer may never come, or the connection may end without one.
-/

namespace TieredCache

inductive Exchange where
  | fetch
  | store (content : Bytes)
  | remove
  deriving DecidableEq

namespace Exchange

def verb : Exchange → String
  | fetch => "GET"
  | store _ => "PUT"
  | remove => "DELETE"

def bodyLength : Exchange → Nat
  | store content => content.length
  | _ => 0

end Exchange

inductive ServiceAnswer where
  /-- The URL cannot be that of a request. -/
  | unsendable
  | unreachable
  | timedOut
  | broken
  /-- A status, and the body if it could be read to its end. -/
  | answered (status : Nat) (body : Option Bytes)
  deriving DecidableEq

namespace ServiceAnswer

def isSuccess (status : Nat) : Bool := 200 ≤ status && status < 300

/-- Whether a service that gave this response is up; nothing if that cannot be told. -/
def health? : ServiceAnswer → Option Bool
  | unreachable => some false
  | answered _ _ => some true
  | _ => none

def statusFault (status : Nat) : Fault := .remote ("status " ++ toString status)

/-- The fault of a request that got no status. -/
def transportFault (limit : Span) (url : Url) : ServiceAnswer → Fault
  | timedOut => .timeout limit
  | unsendable => .remote ("builder error for url (" ++ url.text ++ ")")
  | _ => .remote ("error sending request for url (" ++ url.text ++ ")")

/-- What a fetch yields. -/
def fetched (limit : Span) (url : Url) : ServiceAnswer → Except Fault Bytes
  | answered status body =>
      if status = 404 then .error .notFound
      else if isSuccess status then
        match body with
        | some content => .ok content
        | none => .error (.remote "error decoding response body")
      else .error (statusFault status)
  | failed => .error (failed.transportFault limit url)

def stored (limit : Span) (url : Url) : ServiceAnswer → Except Fault Unit
  | answered status _ => if isSuccess status then .ok () else .error (statusFault status)
  | failed => .error (failed.transportFault limit url)

/-- An object that is not there counts as removed. -/
def removed (limit : Span) (url : Url) : ServiceAnswer → Except Fault Unit
  | answered status _ =>
      if isSuccess status || status = 404 then .ok () else .error (statusFault status)
  | failed => .error (failed.transportFault limit url)

end ServiceAnswer

end TieredCache
