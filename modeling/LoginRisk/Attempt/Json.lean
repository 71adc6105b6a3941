import LoginRisk.Attempt.Basic
import LoginRisk.Json.Decode

/-!
Login attempts as JSON values.
-/

namespace LoginRisk

open Json (Decoder Fields)
open Json.Decode (bool string nat float instant address)

namespace Place

def fieldNames : List String :=
  ["country", "region", "city", "latitude", "longitude", "timezone", "is_usual_location"]

def ofJson : Decoder Place := fun j => do
  let f ← Fields.of fieldNames j
  return {
    country := ← f.required "country" string
    region := ← f.optional "region" string
    city := ← f.optional "city" string
    latitude := ← f.optional "latitude" float
    longitude := ← f.optional "longitude" float
    timezone := ← f.optional "timezone" string
    isUsual := ← f.withDefault "is_usual_location" bool false }

def toJson (p : Place) : Json := .object [
  ("country", .string p.country),
  ("region", .option .string p.region),
  ("city", .option .string p.city),
  ("latitude", .option .float p.latitude),
  ("longitude", .option .float p.longitude),
  ("timezone", .option .string p.timezone),
  ("is_usual_location", .bool p.isUsual)]

end Place

namespace Attempt

def fieldNames : List String := [
  "email", "credential_digest", "client_ip", "user_agent", "timestamp", "request_id", "user_id",
  "geolocation", "device_fingerprint", "is_tor_exit_node", "is_vpn", "threat_intel_score",
  "previous_failed_attempts"]

def ofJson : Decoder Attempt := fun j => do
  let f ← Fields.of fieldNames j
  return {
    email := ← f.required "email" string
    credentialDigest := ← f.required "credential_digest" string
    clientAddress := ← f.required "client_ip" address
    userAgent := ← f.required "user_agent" string
    timestamp := ← f.required "timestamp" instant
    requestId := ← f.required "request_id" string
    userId := ← f.optional "user_id" string
    place := ← f.optional "geolocation" Place.ofJson
    deviceFingerprint := ← f.optional "device_fingerprint" string
    isTorExit := ← f.withDefault "is_tor_exit_node" bool false
    isVpn := ← f.withDefault "is_vpn" bool false
    threatScore := ← f.withDefault "threat_intel_score" float 0.0
    previousFailures := ← f.withDefault "previous_failed_attempts" (nat 32) 0 }

def toJson (a : Attempt) : Json := .object [
  ("email", .string a.email),
  ("credential_digest", .string a.credentialDigest),
  ("client_ip", .string a.clientAddress.text),
  ("user_agent", .string a.userAgent),
  ("timestamp", .string a.timestamp.text),
  ("request_id", .string a.requestId),
  ("user_id", .option .string a.userId),
  ("geolocation", .option Place.toJson a.place),
  ("device_fingerprint", .option .string a.deviceFingerprint),
  ("is_tor_exit_node", .bool a.isTorExit),
  ("is_vpn", .bool a.isVpn),
  ("threat_intel_score", .float a.threatScore),
  ("previous_failed_attempts", .nat a.previousFailures)]

end Attempt

end LoginRisk
