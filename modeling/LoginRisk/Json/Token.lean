import LoginRisk.Json.Basic

/-!
The parts of JSON text: blanks, numbers, strings and words. A number without point and exponent that
fits into 64 bits is exact; any other is a float computed from its first nineteen or twenty digits with
one multiplication or division by a power of ten, so that it may differ from the nearest float in the
last place.
-/

namespace LoginRisk.Json

inductive ReadError where
  | unexpectedEnd
  | unexpectedCharacter
  | invalidNumber
  | numberOutOfRange
  | invalidString
  | tooDeep
  | trailingCharacters
  deriving DecidableEq, Repr

def ReadError.message : ReadError → String
  | .unexpectedEnd => "unexpected end of text"
  | .unexpectedCharacter => "unexpected character"
  | .invalidNumber => "invalid number"
  | .numberOutOfRange => "number out of range"
  | .invalidString => "invalid string"
  | .tooDeep => "nested too deeply"
  | .trailingCharacters => "trailing characters"

namespace Read

def isSpace (c : Char) : Bool := c == ' ' || c == '\n' || c == '\t' || c == '\r'

def skipSpace (cs : List Char) : List Char := cs.dropWhile isSpace

def digitValue (c : Char) : Nat := c.toNat - '0'.toNat

def powerOfTen (n : Nat) : Float := Float.ofScientific 1 false n

/-- `significand · 10 ^ exponent` in float arithmetic: one operation when the exponent has at most
308 digits' worth of size, and repeated division by `1e308` for smaller values. -/
def scale (fuel : Nat) (x : Float) (exponent : Int) : Except ReadError Float :=
  match fuel with
  | 0 => .ok x
  | fuel + 1 =>
    if exponent.natAbs ≤ 308 then
      if 0 ≤ exponent then
        let y := x * powerOfTen exponent.natAbs
        if y.isInf then .error .numberOutOfRange else .ok y
      else .ok (x / powerOfTen exponent.natAbs)
    else if x == 0.0 then .ok x
    else if 0 ≤ exponent then .error .numberOutOfRange
    else scale fuel (x / powerOfTen 308) (exponent + 308)

/-- Four divisions bring any significand to zero, so the fuel never runs out. -/
def floatOf (negative : Bool) (significand : Nat) (exponent : Int) : Except ReadError JsonNumber := do
  let x ← scale 8 (Float.ofNat significand) exponent
  return .float (if negative then -x else x)

/-- The digits of a significand that fit into 64 bits, the number of digits taken, and the rest. -/
def takeDigits : Nat → Nat → List Char → Nat × Nat × List Char
  | acc, taken, c :: cs =>
    if c.isDigit && acc * 10 + digitValue c < 0x10000000000000000 then
      takeDigits (acc * 10 + digitValue c) (taken + 1) cs
    else (acc, taken, c :: cs)
  | acc, taken, [] => (acc, taken, [])

/-- The exponent after `e`, with the digits before it already turned into a significand. -/
def exponentPart (negative : Bool) (significand : Nat) (start : Int) (cs : List Char) :
    Except ReadError (JsonNumber × List Char) := do
  let (negativeExponent, cs) :=
    match cs with
    | '+' :: rest => (false, rest)
    | '-' :: rest => (true, rest)
    | _ => (false, cs)
  let digits := cs.takeWhile Char.isDigit
  let rest := cs.dropWhile Char.isDigit
  if digits.isEmpty then
    .error (if cs.isEmpty then .unexpectedEnd else .invalidNumber)
  else
    let size := digits.foldl (fun n c => n * 10 + digitValue c) 0
    if size < 0x80000000 then
      let exponent := if negativeExponent then start - size else start + size
      return (← floatOf negative significand exponent, rest)
    else if significand ≠ 0 && !negativeExponent then .error .numberOutOfRange
    else return (.float (if negative then -0.0 else 0.0), rest)

def floatEnd (negative : Bool) (significand : Nat) (exponent : Int) (cs : List Char) :
    Except ReadError (JsonNumber × List Char) := do
  match cs with
  | 'e' :: rest | 'E' :: rest => exponentPart negative significand exponent rest
  | _ => return (← floatOf negative significand exponent, cs)

/-- The digits after the point. Digits that no longer fit are dropped. -/
def fractionPart (negative : Bool) (significand : Nat) (start : Int) (cs : List Char) :
    Except ReadError (JsonNumber × List Char) :=
  match cs with
  | [] => .error .unexpectedEnd
  | c :: _ =>
    if !c.isDigit then .error .invalidNumber
    else
      let (significand, taken, rest) := takeDigits significand 0 cs
      floatEnd negative significand (start - taken) (rest.dropWhile Char.isDigit)

def number (negative : Bool) (cs : List Char) : Except ReadError (JsonNumber × List Char) :=
  match cs with
  | [] => .error .unexpectedEnd
  | c :: rest =>
    if !c.isDigit then .error .invalidNumber
    else if c == '0' && (rest.head?.any Char.isDigit) then .error .invalidNumber
    else
      let (significand, _, rest) := takeDigits 0 0 cs
      -- Digits of a longer whole part only count towards the exponent.
      let extra := (rest.takeWhile Char.isDigit).length
      let rest := rest.dropWhile Char.isDigit
      match rest with
      | '.' :: fraction => fractionPart negative significand extra fraction
      | 'e' :: _ | 'E' :: _ => floatEnd negative significand extra rest
      | _ =>
        if 0 < extra then floatEnd negative significand extra rest
        else if !negative then .ok (.whole significand, rest)
        else if significand = 0 || 0x8000000000000000 < significand then
          .ok (.float (-(Float.ofNat significand)), rest)
        else .ok (.whole (-(significand : Int)), rest)

def hexValue? (c : Char) : Option Nat :=
  if c.isDigit then some (digitValue c)
  else if 'a' ≤ c && c ≤ 'f' then some (c.toNat - 'a'.toNat + 10)
  else if 'A' ≤ c && c ≤ 'F' then some (c.toNat - 'A'.toNat + 10)
  else none

def hexUnit : List Char → Except ReadError (Nat × List Char)
  | a :: b :: c :: d :: rest =>
    match hexValue? a, hexValue? b, hexValue? c, hexValue? d with
    | some a, some b, some c, some d => .ok (((a * 16 + b) * 16 + c) * 16 + d, rest)
    | _, _, _, _ => .error .invalidString
  | _ => .error .unexpectedEnd

/-- The character of an escape after its backslash. A pair of surrogates is one character, and a
surrogate on its own is refused. -/
def escape : List Char → Except ReadError (Char × List Char)
  | [] => .error .unexpectedEnd
  | '"' :: rest => .ok ('"', rest)
  | '\\' :: rest => .ok ('\\', rest)
  | '/' :: rest => .ok ('/', rest)
  | 'b' :: rest => .ok ('\x08', rest)
  | 'f' :: rest => .ok ('\x0c', rest)
  | 'n' :: rest => .ok ('\n', rest)
  | 'r' :: rest => .ok ('\r', rest)
  | 't' :: rest => .ok ('\t', rest)
  | 'u' :: rest => do
    let (unit, rest) ← hexUnit rest
    if unit < 0xD800 || 0xE000 ≤ unit then return (Char.ofNat unit, rest)
    else if 0xDC00 ≤ unit then .error .invalidString
    else
      match rest with
      | '\\' :: 'u' :: rest =>
        let (second, rest) ← hexUnit rest
        if second < 0xDC00 || 0xE000 ≤ second then .error .invalidString
        else return (Char.ofNat (0x10000 + (unit - 0xD800) * 0x400 + (second - 0xDC00)), rest)
      | _ => .error .invalidString
  | _ => .error .invalidString

/-- The rest of a string after its opening quote; each step reads at least one character, so the
number of characters is fuel enough. -/
def stringBody : Nat → List Char → List Char → Except ReadError (String × List Char)
  | 0, _, _ => .error .unexpectedEnd
  | _, _, [] => .error .unexpectedEnd
  | fuel + 1, done, c :: rest =>
    if c == '"' then .ok (.ofList done.reverse, rest)
    else if c == '\\' then
      match escape rest with
      | .error e => .error e
      | .ok (d, rest) => stringBody fuel (d :: done) rest
    else if c.toNat < 32 then .error .invalidString
    else stringBody fuel (c :: done) rest

def string (cs : List Char) : Except ReadError (String × List Char) := stringBody (cs.length + 1) [] cs

def word (w : String) (value : Json) (cs : List Char) : Except ReadError (Json × List Char) :=
  if w.toList.isPrefixOf cs then .ok (value, cs.drop w.length) else .error .unexpectedCharacter

end Read

end LoginRisk.Json
