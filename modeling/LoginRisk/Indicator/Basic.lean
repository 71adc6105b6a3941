import LoginRisk.Json.Decode
import LoginRisk.Risk.Level

/-!
Indicators of known attackers: addresses, blocks of addresses, tools, domains and digests.
-/

namespace LoginRisk

inductive IndicatorKind where
  | ip | cidr | userAgent | emailDomain | credentialDigest
  deriving DecidableEq, Repr

namespace IndicatorKind

def name : IndicatorKind → String
  | .ip => "ip"
  | .cidr => "cidr"
  | .userAgent => "user_agent"
  | .emailDomain => "email_domain"
  | .credentialDigest => "credential_digest"

def all : List IndicatorKind := [.ip, .cidr, .userAgent, .emailDomain, .credentialDigest]

end IndicatorKind

inductive Severity where
  | suspicious | malicious | critical
  deriving DecidableEq, Repr

namespace Severity

def name : Severity → String
  | .suspicious => "suspicious"
  | .malicious => "malicious"
  | .critical => "critical"

def all : List Severity := [.suspicious, .malicious, .critical]

def weight : Severity → Float
  | .suspicious => 0.3
  | .malicious => 0.6
  | .critical => 0.8

end Severity

structure Indicator where
  kind : IndicatorKind
  value : String
  severity : Severity
  confidence : Float := 1.0
  tags : List String := []
  campaign : Option String := none
  source : String := "local"
  expiresAt : Option Instant := none

namespace Indicator

def score (i : Indicator) : Float := clampUnit (i.severity.weight * i.confidence)

def isExpired (i : Indicator) (now : Instant) : Bool := i.expiresAt.any (· ≤ now)

open Json.Decode (string float instant)

def fieldNames : List String :=
  ["kind", "value", "severity", "confidence", "tags", "campaign_id", "source", "expires_at"]

def ofJson : Json.Decoder Indicator := fun j => do
  let f ← Json.Fields.of fieldNames j
  return {
    kind := ← f.required "kind" (Json.Decode.name (IndicatorKind.all.map fun k => (k.name, k)))
    value := ← f.required "value" string
    severity := ← f.required "severity" (Json.Decode.name (Severity.all.map fun s => (s.name, s)))
    confidence := ← f.withDefault "confidence" float 1.0
    tags := ← f.withDefault "tags" (Json.Decode.list string) []
    campaign := ← f.optional "campaign_id" string
    source := ← f.withDefault "source" string "local"
    expiresAt := ← f.optional "expires_at" instant }

def toJson (i : Indicator) : Json := .object [
  ("kind", .string i.kind.name),
  ("value", .string i.value),
  ("severity", .string i.severity.name),
  ("confidence", .float i.confidence),
  ("tags", .strings i.tags),
  ("campaign_id", .option .string i.campaign),
  ("source", .string i.source),
  ("expires_at", .option (fun t => .string t.text) i.expiresAt)]

end Indicator

end LoginRisk
