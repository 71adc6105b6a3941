import LoginRisk.Assessment.Validate
import LoginRisk.Settings.Basic

/-!
The cache of assessments: as many as its capacity, those used last, for a limited time. An assessment
that breaks a rule is thrown out when it is found.
-/

namespace LoginRisk

structure CacheEntry where
  assessment : Assessment
  /-- The clock in milliseconds when the entry was made. -/
  insertedAt : Nat

/-- The entries, those used last first. -/
structure ResultCache where
  entries : List (String × CacheEntry)

inductive CacheLookup where
  | hit (assessment : Assessment)
  | miss
  /-- The entry broke a rule and has been thrown out. -/
  | corrupted (fault : AssessmentFault)

namespace ResultCache

def empty : ResultCache := ⟨[]⟩

def capacity (s : CacheSettings) : Nat := max s.capacity 1

def remove (c : ResultCache) (key : String) : ResultCache :=
  ⟨c.entries.filter fun e => e.1 ≠ key⟩

def isExpired (s : CacheSettings) (clock : Nat) (e : CacheEntry) : Bool :=
  s.ttlSeconds * 1000 ≤ clock - e.insertedAt

/-- Looks a key up and marks its entry as used last. -/
def get (s : CacheSettings) (clock : Nat) (c : ResultCache) (key : String) :
    ResultCache × CacheLookup :=
  if !s.enabled then (c, .miss)
  else
    match c.entries.lookup key with
    | none => (c, .miss)
    | some e =>
      let rest := c.remove key
      if isExpired s clock e then (rest, .miss)
      else
        match e.assessment.firstFault with
        | some fault => (rest, .corrupted fault)
        | none => (⟨(key, e) :: rest.entries⟩, .hit e.assessment)

/-- Puts an assessment in front; the entry used longest ago makes room for a new key. -/
def insert (s : CacheSettings) (clock : Nat) (c : ResultCache) (key : String) (r : Assessment) :
    ResultCache :=
  if !s.enabled then c
  else ⟨((key, ⟨r, clock⟩) :: (c.remove key).entries).take (capacity s)⟩

def purge (s : CacheSettings) (clock : Nat) (c : ResultCache) : ResultCache :=
  ⟨c.entries.filter fun e => !isExpired s clock e.2⟩

def clear (_ : ResultCache) : ResultCache := empty

def size (c : ResultCache) : Nat := c.entries.length

def isEmpty (c : ResultCache) : Bool := c.entries.isEmpty

end ResultCache

end LoginRisk
