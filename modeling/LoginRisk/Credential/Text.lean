import LoginRisk.Text.Alphanumeric
import LoginRisk.Text.Blank
import LoginRisk.Text.Case
import LoginRisk.Text.Search

/-!
Statistics of a text field: its words, the entropy of its characters and a guess at its language.
-/

namespace LoginRisk.Credential

def tokens (cs : List Char) : List (List Char) := Text.runsOf Text.isAlphanumeric cs

def ratio (part whole : Nat) : Float := Float.ofNat part / Float.ofNat whole

def uniqueTokenRatio (ts : List (List Char)) : Float :=
  if ts.isEmpty then 0.0 else ratio (Text.distinct ts).length ts.length

def frequencies (cs : List Char) : List Nat := (Text.distinct cs).map fun c => cs.count c

/-- Shannon entropy of the characters, in bits. -/
def entropy (text : String) : Float :=
  let cs := text.toList
  (frequencies cs).foldl
    (fun sum n =>
      let p := ratio n cs.length
      sum + -p * p.log2)
    0.0

/-- `unknown` for a blank text, `en` for an ASCII one and `multi` for any other. -/
def language (cs : List Char) : String :=
  if (Text.trimChars cs).isEmpty then "unknown"
  else if cs.all (·.toNat < 128) then "en"
  else "multi"

/-- The local part of an address and the first label of its domain, in lower case. -/
def splitEmail (email : String) : List Char × List Char :=
  let lower := (Text.toLower (Text.trim email)).toList
  match Text.splitFirst? '@' lower with
  | some (name, domain) => (name, Text.before '.' domain)
  | none => (lower, [])

def common (xs ys : List Char) : List Char := xs.filter ys.contains

/-- How much the local part of an address and a credential have in common: the share of characters
that occur in both, and at least 0.8 when the credential contains a local part of three characters or
more. -/
def similarity (email credential : String) : Float :=
  let name := (splitEmail email).1
  let secret := Text.lowerChars credential.toList
  if name.isEmpty || secret.isEmpty then 0.0
  else
    let a := Text.distinct name
    let b := Text.distinct secret
    let shared := (common a b).length
    let share := ratio shared (a.length + b.length - shared)
    if 3 ≤ name.length && Text.hasInfix name secret then if share < 0.8 then 0.8 else share
    else share

end LoginRisk.Credential
