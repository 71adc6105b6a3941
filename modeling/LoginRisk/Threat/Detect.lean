import LoginRisk.Findings.Basic
import LoginRisk.Hash.Sha256
import LoginRisk.Indicator.Feed
import LoginRisk.Window.Store

/-!
The threat stage: what the indicator feed says about an attempt, together with attacks in progress
that show in sliding windows over sources, accounts and credentials.
-/

namespace LoginRisk

structure ThreatState where
  feed : Feed
  /-- Attempted accounts by source address. -/
  byIp : WindowStore
  /-- Source addresses by account. -/
  byAccount : WindowStore
  /-- Accounts by credential tag. -/
  byCredential : WindowStore

namespace ThreatState

def initial (s : ThreatSettings) : ThreatState :=
  ⟨.initial s, .empty s.windowSeconds, .empty s.windowSeconds, .empty s.windowSeconds⟩

end ThreatState

namespace Threat

/-- A short tag of a credential digest, from which the digest cannot be recovered. -/
def credentialTag (digest : String) : String :=
  Hash.hex ((Hash.sha256 (Hash.utf8 digest)).take 8)

/-- The network of an address in text: its first three parts or groups. -/
def networkText : Address → String
  | .v4 bits => ".".intercalate (((Address.octets bits.toNat).take 3).map toString) ++ ".0/24"
  | .v6 bits => ":".intercalate (((Address.segments bits.toNat).take 3).map Address.groupText) ++ "::/48"

def networkCampaign (a : Address) : String :=
  "campaign-" ++ Hash.hex ((Hash.sha256 (Hash.utf8 (networkText a))).take 4)

/-- How machine-like the rhythm of at least three attempts is. -/
def timePattern (meanInterval : Option Float) (attempts : Nat) : Float :=
  match meanInterval with
  | none => 0.0
  | some gap =>
    if attempts < 3 then 0.0
    else if gap < 2.0 then 1.0
    else if gap < 10.0 then 0.6
    else if gap < 60.0 then 0.3
    else 0.0

/-- What the windows say about an attempt, the attempt itself included. -/
structure Activity where
  ipAttempts : Nat
  accountsFromIp : Nat
  accountAttempts : Nat
  ipsForAccount : Nat
  accountsForCredential : Nat
  meanInterval : Option Float

/-- Records an attempt in the three windows, stopping at the first that fails. -/
def record (s : ThreatState) (a : Attempt) : ThreatState × Except TimeOverflow Activity :=
  let now := a.timestamp
  let account := a.normalizedEmail
  let ip := a.clientAddress.text
  let (byIp, fromIp) := s.byIp.record ip now account
  let s := { s with byIp }
  match fromIp with
  | .error e => (s, .error e)
  | .ok (ipAttempts, accountsFromIp) =>
    let (byAccount, ofAccount) := s.byAccount.record account now ip
    let s := { s with byAccount }
    match ofAccount with
    | .error e => (s, .error e)
    | .ok (accountAttempts, ipsForAccount) =>
      let (byCredential, ofCredential) :=
        s.byCredential.record (credentialTag a.credentialDigest) now account
      let s := { s with byCredential }
      match ofCredential with
      | .error e => (s, .error e)
      | .ok (_, accountsForCredential) =>
        (s, (s.byAccount.meanInterval account now).map fun meanInterval =>
          { ipAttempts, accountsFromIp, accountAttempts, ipsForAccount, accountsForCredential,
            meanInterval })

def isTor (a : Attempt) (v : FeedVerdict) : Bool := a.isTorExit || v.torExit

/-- Indicators whose severity counts towards the reputation of the source. -/
def isReputation (i : Indicator) : Bool :=
  i.kind = .ip || i.kind = .cidr || i.kind = .userAgent

def signals (s : ThreatSettings) (a : Attempt) (v : FeedVerdict) : List Float :=
  clampUnit a.threatScore :: (v.found.filter isReputation).map Indicator.score ++
    (if isTor a v && s.torDetection then [clampUnit s.torScore] else []) ++
    (if a.isVpn then [clampUnit s.vpnScore] else [])

/-- The chance that at least one of the signals is right. -/
def reputation (xs : List Float) : Float :=
  clampUnit (1.0 - xs.foldl (fun acc x => acc * (1.0 - x)) 1.0)

def bruteForce (s : ThreatSettings) (w : Activity) : BruteForceSigns :=
  { rapidAttempts := s.bruteForceAttempts ≤ w.accountAttempts || s.bruteForceAttempts ≤ w.ipAttempts
    multipleIps := s.distributedIpThreshold ≤ w.ipsForAccount
    timePattern := timePattern w.meanInterval w.accountAttempts }

def stuffing (s : ThreatSettings) (w : Activity) (v : FeedVerdict) : StuffingSigns :=
  { passwordReuse := 3 ≤ w.accountsForCredential
    multipleAccounts := s.stuffingAccountsThreshold ≤ w.accountsFromIp
    commonPasswords := v.found.any (·.kind = .credentialDigest) }

def takeover (a : Attempt) (v : FeedVerdict) : TakeoverSigns :=
  { locationChange := a.place.any fun p => !p.isUsual
    deviceChange := (Attempt.nonEmpty a.deviceFingerprint).isNone
    behaviorChange := 3 ≤ a.previousFailures && (isTor a v || a.isVpn) }

def isMaliciousSource (i : Indicator) : Bool :=
  (i.kind = .ip || i.kind = .cidr) && i.severity ≠ .suspicious

def patterns (a : Attempt) (v : FeedVerdict) (b : BruteForceSigns) (c : StuffingSigns)
    (t : TakeoverSigns) : List String :=
  let tor := isTor a v
  (if b.rapidAttempts || b.multipleIps then ["brute_force"] else []) ++
  (if c.multipleAccounts || c.passwordReuse then ["credential_stuffing"] else []) ++
  (if 2 ≤ t.count && (0 < a.previousFailures || tor || a.isVpn) then
    ["account_takeover"] else []) ++
  (if tor && 0 < a.previousFailures then ["tor_abuse"] else []) ++
  (if v.found.any isMaliciousSource then ["known_malicious_ip"] else [])

/-- Actors and the tags of indicators that point to them, in ascending order of the actors. -/
def actorTags : List (String × String) := [
  ("apt_group", "apt"), ("botnet", "botnet"), ("brute_force_toolkit", "brute_force"),
  ("scanner", "scanner"), ("stuffing_toolkit", "credential_stuffing")]

def actors (a : Attempt) (v : FeedVerdict) : List String :=
  let isTagged (tag : String) : Bool := v.found.any fun i => i.tags.any fun t => Text.toLower t = tag
  (actorTags.filter fun p => isTagged p.2).map Prod.fst ++
  (if isTor a v then ["tor_user"] else []) ++
  (if a.isVpn then ["vpn_user"] else [])

def findings (s : ThreatSettings) (a : Attempt) (v : FeedVerdict) (w : Activity) : ThreatFindings :=
  let b := bruteForce s w
  let c := stuffing s w v
  let t := takeover a v
  let found := patterns a v b c t
  { ipReputation := reputation (signals s a v)
    knownPatterns := found
    actors := actors a v
    bruteForce := b
    stuffing := c
    takeover := t
    -- The number has 32 bits, which is enough for a window of up to `2 ^ 32` attempts.
    similarAttacks := if found.isEmpty then 0 else w.accountsFromIp - 1
    campaign := (v.found.findSome? Indicator.campaign).orElse fun _ =>
      if c.multipleAccounts then some (networkCampaign a.clientAddress) else none
    usedFallback := false }

def assess (settings : ThreatSettings) (s : ThreatState) (a : Attempt) (v : FeedVerdict) :
    ThreatState × Except TimeOverflow ThreatFindings :=
  let (s, activity) := record s a
  (s, activity.map (findings settings a v))

/-- The threat stage; `now` decides which indicators have expired. -/
def analyze (settings : ThreatSettings) (s : ThreatState) (a : Attempt) (now : Instant) :
    ThreatState × Except TimeOverflow ThreatFindings :=
  assess settings s a (s.feed.lookup a now)

/-- Drops what no longer counts at `now`, up to the first store that fails. -/
def cleanup (s : ThreatState) (now : Instant) : ThreatState × Except TimeOverflow Unit :=
  match s.byIp.cleanup now with
  | .error e => (s, .error e)
  | .ok byIp =>
    match s.byAccount.cleanup now with
    | .error e => ({ s with byIp }, .error e)
    | .ok byAccount =>
      match s.byCredential.cleanup now with
      | .error e => ({ s with byIp, byAccount }, .error e)
      | .ok byCredential => ({ byIp, byAccount, byCredential, feed := s.feed.cleanup now }, .ok ())

end Threat

end LoginRisk
