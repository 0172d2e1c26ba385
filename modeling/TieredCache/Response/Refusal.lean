/-! Why a response is not stored. -/

namespace TieredCache

inductive Refusal where
  | missingStatus
  | status (code : UInt16)
  | forbidden
  | vary
  | cookies
  | expired
  | htmlOverHttps
  | tooLarge
  | encoding
  deriving DecidableEq

namespace Refusal

def name : Refusal → String
  | .missingStatus => "missing_status"
  | .status _ => "status"
  | .forbidden => "forbidden"
  | .vary => "vary"
  | .cookies => "cookies"
  | .expired => "expired"
  | .htmlOverHttps => "html_over_https"
  | .tooLarge => "too_large"
  | .encoding => "encoding"

def message : Refusal → String
  | .missingStatus => "missing status code"
  | .status code => "status " ++ toString code ++ " is not cacheable without explicit freshness"
  | .forbidden => "cache-control forbids storing"
  | .vary => "varies on request headers other than accept-encoding"
  | .cookies => "sets cookies without explicit freshness"
  | .expired => "already expired"
  | .htmlOverHttps => "html over https"
  | .tooLarge => "larger than the maximum cacheable size"
  | .encoding => "headers could not be serialized"

end Refusal

end TieredCache
