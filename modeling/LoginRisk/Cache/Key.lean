import LoginRisk.Attempt.Basic
import LoginRisk.Hash.Base64
import LoginRisk.Settings.Basic
import LoginRisk.Window.Basic

/-!
Keys under which assessments are cached. Attempts of one account from one source with one device
within one span of time share a key, from which none of this can be recovered.
-/

namespace LoginRisk.CacheKey

/-- The span of time that an instant belongs to. Spans are counted from 1970 in both directions, and
their width is read as a signed number of 64 bits. -/
def bucket (s : CacheSettings) (t : Instant) : Int :=
  t.seconds / AttemptWindow.signedSeconds (max s.bucketSeconds 1)

def fields (s : CacheSettings) (a : Attempt) : List String := [
  a.normalizedEmail, a.clientAddress.text, a.userAgent, a.deviceFingerprint.getD "",
  toString (bucket s a.timestamp)]

def separator : UInt8 := 0x1f

def message (s : CacheSettings) (a : Attempt) : Hash.Bytes :=
  (fields s a).flatMap fun f => Hash.utf8 f ++ [separator]

def key (secret : Hash.Bytes) (s : CacheSettings) (a : Attempt) : String :=
  Hash.base64 (Hash.hmac secret (message s a))

end LoginRisk.CacheKey
