import LoginRisk.Attempt.Basic
import LoginRisk.Hash.Sha256

/-!
Words that describe an attempt for its vector representation.
-/

namespace LoginRisk.Embedding

def scriptedAgents : List String := [
  "curl", "python", "wget", "go-http", "java/", "okhttp", "scrapy", "httpclient", "bot", "headless"]

def isScripted (userAgent : String) : Bool :=
  let agent := Text.toLower userAgent
  Text.trim agent = "" || scriptedAgents.any (Text.contains agent)

def timeTokens (t : Instant) : List String :=
  let hour := t.hour.val
  ["hour:" ++ toString hour, "weekday:" ++ t.weekday.name] ++
  (if t.weekday.isWeekend then ["weekend"]
    else if 9 ≤ hour && hour ≤ 17 then ["business_hours"] else []) ++
  (if hour < 6 || 22 < hour then ["night_time"] else [])

def placeTokens : Option Place → List String
  | none => ["geo:unknown"]
  | some p => ("country:" ++ Text.toUpper p.country) :: (p.timezone.map ("tz:" ++ ·)).toList

def threatToken (score : Float) : String :=
  if 0.7 < score then "threat:high" else if 0.3 < score then "threat:medium" else "threat:low"

def failureToken (failures : Nat) : String :=
  if failures = 0 then "failed:none"
  else if failures ≤ 2 then "failed:few"
  else if failures ≤ 9 then "failed:many"
  else "failed:excessive"

def tokens (a : Attempt) : List String :=
  ["domain:" ++ Text.toLower a.emailDomain] ++ timeTokens a.timestamp ++ placeTokens a.place ++
  ["ua:" ++ Hash.hex ((Hash.sha256 (Hash.utf8 a.userAgent)).take 4)] ++
  (if isScripted a.userAgent then ["ua_family:script"] else []) ++
  ["device:" ++ (Attempt.nonEmpty a.deviceFingerprint).getD "missing"] ++
  (if a.isTorExit then ["tor_exit"] else []) ++
  (if a.isVpn then ["vpn_connection"] else []) ++
  [threatToken a.threatScore, failureToken a.previousFailures]

end LoginRisk.Embedding
