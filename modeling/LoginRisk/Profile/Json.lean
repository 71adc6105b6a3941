import LoginRisk.Json.Decode
import LoginRisk.Json.Writer
import LoginRisk.Profile.Basic

/-!
Profiles as JSON values and as the text of stored rows.
-/

namespace LoginRisk

open Json (Decoder Fields)
open Json.Decode (bool string nat float float32 instant list)

namespace LoginOutcome

def ofJson : Decoder LoginOutcome := fun j => do
  let f ← Fields.of ["timestamp", "success", "ip"] j
  return {
    timestamp := ← f.required "timestamp" instant
    success := ← f.required "success" bool
    ip := ← f.required "ip" string }

def toJson (o : LoginOutcome) : Json := .object [
  ("timestamp", .string o.timestamp.text),
  ("success", .bool o.success),
  ("ip", .string o.ip)]

end LoginOutcome

namespace Profile

def count : Decoder UInt32 := fun j => (nat 32 j).map UInt32.ofNat

def histogram : Decoder (Vector UInt32 24) := fun j => do
  let counts ← list count j
  if h : counts.toArray.size = 24 then return ⟨counts.toArray, h⟩
  else .error (.expected "24 counts")

def fieldNames : List String := [
  "user_id", "hour_histogram", "known_countries", "known_locations", "known_devices",
  "known_user_agents", "recent_logins", "outcomes", "typical_embeddings", "calibration_bias",
  "false_positives", "false_negatives", "confirmed_decisions", "created_at", "updated_at"]

def ofJson : Decoder Profile := fun j => do
  let f ← Fields.of fieldNames j
  return {
    userId := ← f.required "user_id" string
    hourHistogram := ← f.required "hour_histogram" histogram
    knownCountries := ← f.required "known_countries" (list string)
    knownLocations := ← f.required "known_locations" (list string)
    knownDevices := ← f.required "known_devices" (list string)
    knownUserAgents := ← f.required "known_user_agents" (list string)
    recentLogins := ← f.required "recent_logins" (list instant)
    outcomes := ← f.required "outcomes" (list LoginOutcome.ofJson)
    typicalEmbeddings := ← f.required "typical_embeddings" (list (list float32))
    calibrationBias := ← f.required "calibration_bias" float
    falsePositives := ← f.required "false_positives" count
    falseNegatives := ← f.required "false_negatives" count
    confirmed := ← f.required "confirmed_decisions" count
    createdAt := ← f.required "created_at" instant
    updatedAt := ← f.required "updated_at" instant }

def toJson (p : Profile) : Json := .object [
  ("user_id", .string p.userId),
  ("hour_histogram", .array (p.hourHistogram.toList.map fun n => .nat n.toNat)),
  ("known_countries", .strings p.knownCountries),
  ("known_locations", .strings p.knownLocations),
  ("known_devices", .strings p.knownDevices),
  ("known_user_agents", .strings p.knownUserAgents),
  ("recent_logins", .array (p.recentLogins.map fun t => .string t.text)),
  ("outcomes", .array (p.outcomes.map LoginOutcome.toJson)),
  ("typical_embeddings",
    .array (p.typicalEmbeddings.map fun v => .array (v.map fun x => .float (Number.widen x)))),
  ("calibration_bias", .float p.calibrationBias),
  ("false_positives", .nat p.falsePositives.toNat),
  ("false_negatives", .nat p.falseNegatives.toNat),
  ("confirmed_decisions", .nat p.confirmed.toNat),
  ("created_at", .string p.createdAt.text),
  ("updated_at", .string p.updatedAt.text)]

def rowText (p : Profile) : String := p.toJson.compact

end Profile

end LoginRisk
