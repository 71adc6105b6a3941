import LoginRisk.Net.Address
import LoginRisk.Text.Blank
import LoginRisk.Text.Case
import LoginRisk.Text.Search
import LoginRisk.Time.Instant

/-!
Login attempts and the keys derived from them.
-/

namespace LoginRisk

structure Place where
  country : String
  region : Option String := none
  city : Option String := none
  latitude : Option Float := none
  longitude : Option Float := none
  timezone : Option String := none
  /-- The caller's own verdict that the user is often there. -/
  isUsual : Bool := false

/-- Country, region and city in one text; what is not known is written `-`. -/
def Place.key (p : Place) : String :=
  Text.toUpper p.country ++ "/" ++ p.region.getD "-" ++ "/" ++ p.city.getD "-"

/-- One login attempt. Passwords never get here: the credential is a digest made by the caller. -/
structure Attempt where
  email : String
  credentialDigest : String
  clientAddress : Address
  userAgent : String
  timestamp : Instant
  requestId : String
  userId : Option String := none
  place : Option Place := none
  deviceFingerprint : Option String := none
  isTorExit : Bool := false
  isVpn : Bool := false
  threatScore : Float := 0.0
  previousFailures : Nat := 0

namespace Attempt

def normalizedEmail (a : Attempt) : String := Text.toLower (Text.trim a.email)

def nonEmpty (s : Option String) : Option String := s.filter (· ≠ "")

/-- The key of the user's profile: the user id when there is one, else the address. -/
def profileKey (a : Attempt) : String := (nonEmpty a.userId).getD a.normalizedEmail

def emailDomain (a : Attempt) : String :=
  .ofList ((Text.afterLast? '@' (Text.trimChars a.email.toList)).getD [])

/-- What identifies the device: the fingerprint when there is one, else the user agent. -/
def deviceKey (a : Attempt) : String := (nonEmpty a.deviceFingerprint).getD ("ua:" ++ a.userAgent)

end Attempt

end LoginRisk
