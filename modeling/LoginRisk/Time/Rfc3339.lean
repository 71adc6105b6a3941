import LoginRisk.Number.Decimal
import LoginRisk.Text.Blank
import LoginRisk.Time.Instant

/-!
Instants as text: `2024-05-01T12:00:00.250Z`. Writing follows RFC 3339; reading is more lenient
and allows blanks around the parts, a space for the `T`, years with a sign and any offset.
-/

namespace LoginRisk.Instant

namespace Read

open Text (trimStartChars)

/-- A decimal number of one to `most` digits that is below `2 ^ 63`. -/
def number? (most : Nat) (cs : List Char) : Option (Nat × List Char) :=
  let digits := (cs.take most).takeWhile Char.isDigit
  let n := digits.foldl (fun n c => n * 10 + (c.toNat - '0'.toNat)) 0
  if digits.isEmpty || 0x8000000000000000 ≤ n then none else some (n, cs.drop digits.length)

def literal? (c : Char) (cs : List Char) : Option (List Char) :=
  match trimStartChars cs with
  | d :: rest => if d = c then some rest else none
  | [] => none

/-- A year: four digits at most, or a sign and any number of digits. -/
def year? (cs : List Char) : Option (Int × List Char) :=
  match trimStartChars cs with
  | '-' :: rest => (number? rest.length rest).map fun p => (-(p.1 : Int), p.2)
  | '+' :: rest => (number? rest.length rest).map fun p => ((p.1 : Int), p.2)
  | rest => (number? 4 rest).map fun p => ((p.1 : Int), p.2)

def two? (cs : List Char) : Option (Nat × List Char) := number? 2 (trimStartChars cs)

/-- The fraction of a second in nanoseconds; digits after the ninth are dropped. -/
def fraction? (cs : List Char) : Option (Nat × List Char) :=
  match cs with
  | '.' :: rest => do
    let (n, after) ← number? 9 rest
    return (n * Number.tenTo (9 - (rest.length - after.length)), after.dropWhile Char.isDigit)
  | _ => some (0, cs)

def pair? : List Char → Option (Nat × List Char)
  | a :: b :: rest =>
    if a.isDigit && b.isDigit then
      some ((a.toNat - '0'.toNat) * 10 + (b.toNat - '0'.toNat), rest)
    else none
  | _ => none

def offset? (cs : List Char) : Option (Int × List Char) :=
  let signed (negative : Bool) (rest : List Char) : Option (Int × List Char) := do
    let (hours, rest) ← pair? rest
    let (minutes, rest) ← pair? (rest.dropWhile fun c => c = ':' || Text.isBlank c)
    if 60 ≤ minutes then none
    else
      let seconds : Int := hours * 3600 + minutes * 60
      some (if negative then -seconds else seconds, rest)
  match cs with
  | 'Z' :: rest | 'z' :: rest => some (0, rest)
  | '+' :: rest => signed false rest
  | '-' :: rest | '−' :: rest => signed true rest
  | a :: b :: c :: rest =>
    if [a, b, c].map Char.toUpper == ['U', 'T', 'C'] then some (0, rest) else none
  | _ => none

end Read

/-- The instant of a date and a time of day at an offset. A sixtieth second is a leap second. -/
def ofCivil? (date : Time.Date) (hour minute second nanos : Nat) (offset : Int) : Option Instant :=
  if !date.valid || 24 ≤ hour || 60 ≤ minute || 60 < second || 86400 ≤ offset.natAbs then none
  else
    let (second, nanos) := if second = 60 then (59, nanos + 1000000000) else (second, nanos)
    let seconds :=
      date.toDays * secondsPerDay + hour * 3600 + minute * 60 + second - offset
    if inRange seconds then some ⟨seconds, nanos⟩ else none

def read? (text : String) : Option Instant := do
  let cs := text.toList
  let (year, cs) ← Read.year? cs
  let cs ← Read.literal? '-' cs
  let (month, cs) ← Read.two? cs
  let cs ← Read.literal? '-' cs
  let (day, cs) ← Read.two? cs
  let cs ←
    match cs with
    | 'T' :: rest | 't' :: rest | ' ' :: rest => some rest
    | _ => none
  let (hour, cs) ← Read.two? cs
  let cs ← Read.literal? ':' cs
  let (minute, cs) ← Read.two? cs
  let cs ← Read.literal? ':' cs
  let (second, cs) ← Read.two? cs
  let (nanos, cs) ← Read.fraction? cs
  let (offset, cs) ← Read.offset? (Text.trimStartChars cs)
  if (Text.trimStartChars cs).isEmpty then
    ofCivil? ⟨year, month, day⟩ hour minute second nanos offset
  else none

/-- A year of at least four digits, with a sign outside 0 to 9999. -/
def yearText (year : Int) : List Char :=
  if 0 ≤ year && year ≤ 9999 then Number.padded 4 year.toNat
  else (if year < 0 then '-' else '+') :: Number.padded 4 year.natAbs

/-- A fraction of no, three, six or nine digits, as few as hold it. -/
def fractionText (nanos : Nat) : List Char :=
  if nanos = 0 then []
  else if nanos % 1000000 = 0 then '.' :: Number.padded 3 (nanos / 1000000)
  else if nanos % 1000 = 0 then '.' :: Number.padded 6 (nanos / 1000)
  else '.' :: Number.padded 9 nanos

def text (t : Instant) : String :=
  let date := Time.Date.ofDays t.day
  let leap := 1000000000 ≤ t.nanos
  let second := t.secondOfDay % 60 + if leap then 1 else 0
  let nanos := if leap then t.nanos - 1000000000 else t.nanos
  .ofList (yearText date.year ++ '-' :: Number.padded 2 date.month ++ '-' ::
    Number.padded 2 date.day ++ 'T' :: Number.padded 2 t.hour.val ++ ':' ::
    Number.padded 2 (t.secondOfDay / 60 % 60) ++ ':' :: Number.padded 2 second ++
    fractionText nanos ++ ['Z'])

end LoginRisk.Instant
