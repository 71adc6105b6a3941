import LoginRisk.Assoc
import LoginRisk.Attempt.Basic
import LoginRisk.Indicator.Basic
import LoginRisk.Json.Reader
import LoginRisk.Net.Block
import LoginRisk.Settings.Basic

/-!
The indicator database. Each kind of indicator has its own table under the form in which attempts are
looked up, so that a later indicator replaces an earlier one with the same key.
-/

namespace LoginRisk

structure FeedVerdict where
  found : List Indicator
  torExit : Bool

structure Feed where
  ips : List (Address × Indicator)
  blocks : List (Block × Indicator)
  userAgents : List (String × Indicator)
  emailDomains : List (String × Indicator)
  credentialDigests : List (String × Indicator)
  torBlocks : List Block

namespace Feed

def torRanges : List String := [
  "185.220.100.0/22", "199.249.230.0/24", "109.70.100.0/24", "162.247.74.0/24", "204.85.191.0/24",
  "171.25.193.0/24"]

def builtin : List Indicator :=
  [("sentry mba", Severity.critical, "credential_stuffing"),
    ("openbullet", .critical, "credential_stuffing"),
    ("hydra", .malicious, "brute_force"),
    ("medusa", .malicious, "brute_force"),
    ("masscan", .suspicious, "scanner"),
    ("zgrab", .suspicious, "scanner")].map fun (tool, severity, tag) =>
      { kind := .userAgent, value := tool, severity, tags := [tag], source := "builtin" }

/-- The form of an indicator's value under which it is looked up. -/
def keyText (i : Indicator) : String := Text.toLower (Text.trim i.value)

/-- Adds or replaces an indicator; `none` when its value is no address or block. -/
def add? (f : Feed) (i : Indicator) : Option Feed :=
  let key := keyText i
  match i.kind with
  | .ip => (Address.read? key).map fun a => { f with ips := Assoc.put a i f.ips }
  | .cidr => (Block.read? key).map fun b => { f with blocks := Assoc.put b.cleared i f.blocks }
  | .userAgent => some { f with userAgents := Assoc.put key i f.userAgents }
  | .emailDomain => some { f with emailDomains := Assoc.put key i f.emailDomains }
  | .credentialDigest =>
    some { f with credentialDigests := Assoc.put key i f.credentialDigests }

/-- Adds indicators in order, passing over those that are refused, and counts the accepted ones. -/
def addAll (f : Feed) (is : List Indicator) : Feed × Nat :=
  is.foldl
    (fun (f, n) i =>
      match f.add? i with
      | some g => (g, n + 1)
      | none => (f, n))
    (f, 0)

def initial (s : ThreatSettings) : Feed :=
  let torBlocks := if s.torDetection then torRanges.filterMap Block.read? else []
  (Feed.addAll ⟨[], [], [], [], [], torBlocks⟩ builtin).1

/-- Adds the indicators of a JSON array and counts the accepted ones; `none` when the text is no
array of indicators. What else an indicator carries is passed over. -/
def load? (f : Feed) (text : String) : Option (Feed × Nat) :=
  match Json.readRecords Indicator.fieldNames text with
  | .error _ => none
  | .ok j =>
    match Json.Decode.list Indicator.ofJson j with
    | .error _ => none
    | .ok is => some (f.addAll is)

def isTorExit (f : Feed) (a : Address) : Bool := f.torBlocks.any (·.contains a)

def lookup (f : Feed) (a : Attempt) (now : Instant) : FeedVerdict :=
  let agent := Text.toLower a.userAgent
  let domain := Text.toLower a.emailDomain
  let digest := Text.toLower (Text.trim a.credentialDigest)
  let found :=
    (f.ips.lookup a.clientAddress).toList ++
    (f.blocks.filter fun e => e.1.contains a.clientAddress).map Prod.snd ++
    (f.userAgents.filter fun e => e.1 ≠ "" && Text.contains agent e.1).map Prod.snd ++
    (f.emailDomains.lookup domain).toList ++
    (f.credentialDigests.lookup digest).toList
  ⟨found.filter fun i => !i.isExpired now, f.isTorExit a.clientAddress⟩

def cleanup (f : Feed) (now : Instant) : Feed :=
  { f with
    ips := f.ips.filter fun e => !e.2.isExpired now
    blocks := f.blocks.filter fun e => !e.2.isExpired now
    userAgents := f.userAgents.filter fun e => !e.2.isExpired now
    emailDomains := f.emailDomains.filter fun e => !e.2.isExpired now
    credentialDigests := f.credentialDigests.filter fun e => !e.2.isExpired now }

def size (f : Feed) : Nat :=
  f.ips.length + f.blocks.length + f.userAgents.length + f.emailDomains.length +
    f.credentialDigests.length

def isEmpty (f : Feed) : Bool := f.size == 0

end Feed

end LoginRisk
