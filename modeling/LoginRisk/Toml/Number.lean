import LoginRisk.Json.Basic
import LoginRisk.Json.Reader
import LoginRisk.Number.Binary
import LoginRisk.Time.Calendar

/-!
Numbers, dates and times in a TOML document. Whole numbers have 64 bits and a sign, and every other
number is the nearest float.
-/

namespace LoginRisk.Toml

/-- Digits after the first; an underscore may stand between two. -/
def moreDigits (isDigit : Char → Bool) : List Char → List Char × List Char
  | '_' :: c :: rest =>
    if isDigit c then
      let (digits, rest) := moreDigits isDigit rest
      (c :: digits, rest)
    else ([], '_' :: c :: rest)
  | c :: rest =>
    if isDigit c then
      let (digits, rest) := moreDigits isDigit rest
      (c :: digits, rest)
    else ([], c :: rest)
  | [] => ([], [])

def digits? (isDigit : Char → Bool) : List Char → Option (List Char × List Char)
  | c :: rest =>
    if isDigit c then
      let (digits, rest) := moreDigits isDigit rest
      some (c :: digits, rest)
    else none
  | [] => none

def valueOf (base : Nat) (digits : List Char) : Nat :=
  digits.foldl (fun n c => n * base + (Json.Read.hexValue? c).getD 0) 0

def sign : List Char → Bool × List Char
  | '-' :: rest => (true, rest)
  | '+' :: rest => (false, rest)
  | cs => (false, cs)

/-- The digits of a whole part: a zero stands alone. -/
def wholeDigits? : List Char → Option (List Char × List Char)
  | '0' :: rest => some (['0'], rest)
  | cs => digits? Char.isDigit cs

def whole? (negative : Bool) (n : Nat) : Option Json :=
  let i : Int := if negative then -n else n
  if -0x8000000000000000 ≤ i && i < 0x8000000000000000 then some (.int i) else none

/-- A float that is not too large; too small ones are minus infinity. -/
def float? (negative : Bool) (digits : List Char) (exponent : Int) : Option Json :=
  let x := Number.ofDecimal negative (valueOf 10 digits) exponent
  if x.isInf && !negative then none else some (.float x)

def exponent? : List Char → Option (Int × List Char)
  | 'e' :: rest | 'E' :: rest => do
    let (negative, rest) := sign rest
    let (digits, rest) ← digits? Char.isDigit rest
    let n : Int := valueOf 10 digits
    some (if negative then -n else n, rest)
  | cs => some (0, cs)

def unsigned? (negative : Bool) (cs : List Char) : Option (Json × List Char) := do
  let (digits, rest) ← wholeDigits? cs
  match rest with
  | '.' :: rest =>
    let (fraction, rest) ← digits? Char.isDigit rest
    let (exponent, rest) ← exponent? rest
    some (← float? negative (digits ++ fraction) (exponent - fraction.length), rest)
  | 'e' :: _ | 'E' :: _ =>
    let (exponent, rest) ← exponent? rest
    some (← float? negative digits exponent, rest)
  | _ => some (← whole? negative (valueOf 10 digits), rest)

def isOctal (c : Char) : Bool := '0' ≤ c && c ≤ '7'

def isBinary (c : Char) : Bool := c == '0' || c == '1'

def based? (isDigit : Char → Bool) (base : Nat) (cs : List Char) : Option (Json × List Char) := do
  let (digits, rest) ← digits? isDigit cs
  some (← whole? false (valueOf base digits), rest)

def special? (negative : Bool) : List Char → Option (Json × List Char)
  | 'i' :: 'n' :: 'f' :: rest => some (.float (if negative then -1.0 / 0.0 else 1.0 / 0.0), rest)
  | 'n' :: 'a' :: 'n' :: rest => some (.float (0.0 / 0.0), rest)
  | _ => none

def number? : List Char → Option (Json × List Char)
  | '0' :: 'x' :: rest => based? (fun c => (Json.Read.hexValue? c).isSome) 16 rest
  | '0' :: 'o' :: rest => based? isOctal 8 rest
  | '0' :: 'b' :: rest => based? isBinary 2 rest
  | cs =>
    let (negative, rest) := sign cs
    (special? negative rest).orElse fun _ => unsigned? negative rest

def fixed? (count low high : Nat) (cs : List Char) : Option (Nat × List Char) :=
  let digits := (cs.take count).takeWhile Char.isDigit
  let n := valueOf 10 digits
  if digits.length = count && low ≤ n && n ≤ high then some (n, cs.drop count) else none

def exactly? (c : Char) : List Char → Option (List Char)
  | d :: rest => if d = c then some rest else none
  | [] => none

def date? (cs : List Char) : Option (List Char) := do
  let (year, cs) ← fixed? 4 0 9999 cs
  let cs ← exactly? '-' cs
  let (month, cs) ← fixed? 2 1 12 cs
  let cs ← exactly? '-' cs
  let (day, cs) ← fixed? 2 1 31 cs
  if (Time.Date.mk year month day).valid then some cs else none

def time? (cs : List Char) : Option (List Char) := do
  let (_, cs) ← fixed? 2 0 23 cs
  let cs ← exactly? ':' cs
  let (_, cs) ← fixed? 2 0 59 cs
  let cs ← exactly? ':' cs
  let (_, cs) ← fixed? 2 0 60 cs
  match cs with
  | '.' :: rest =>
    if rest.head?.any Char.isDigit then some (rest.dropWhile Char.isDigit) else none
  | cs => some cs

def offset? : List Char → Option (List Char)
  | 'Z' :: rest | 'z' :: rest => some rest
  | '+' :: rest | '-' :: rest => do
    let (_, cs) ← fixed? 2 0 23 rest
    let cs ← exactly? ':' cs
    let (_, cs) ← fixed? 2 0 59 cs
    some cs
  | cs => some cs

/-- A date and time, a date, or a time of day. They are read over: no setting holds one. -/
def moment? (cs : List Char) : Option (Json × List Char) :=
  let moment : Json := .object [("datetime", .null)]
  match date? cs with
  | none => (time? cs).map fun rest => (moment, rest)
  | some rest =>
    match rest with
    | 'T' :: tail | 't' :: tail | ' ' :: tail =>
      match time? tail with
      | some tail => (offset? tail).map fun rest => (moment, rest)
      | none => some (moment, rest)
    | _ => some (moment, rest)

end LoginRisk.Toml
