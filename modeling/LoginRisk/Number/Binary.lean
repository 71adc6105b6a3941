import LoginRisk.Number.Power

/-!
Binary floating-point numbers as exact values `± mantissa · 2 ^ exponent`, and the two conversions
between the 64-bit and the 32-bit format.
-/

namespace LoginRisk.Number

inductive Binary where
  | nan
  | infinite (negative : Bool)
  | finite (negative : Bool) (mantissa : Nat) (exponent : Int)
  deriving DecidableEq, Repr

/-- A binary interchange format: `digits` fraction bits and `exponentBits` exponent bits. -/
structure BinaryFormat where
  digits : Nat
  exponentBits : Nat

def binary64 : BinaryFormat := ⟨52, 11⟩

def binary32 : BinaryFormat := ⟨23, 8⟩

namespace BinaryFormat

/-- The exponent of the spacing between subnormal numbers. -/
def least (f : BinaryFormat) : Int := 3 - (twoTo (f.exponentBits - 1) + f.digits + 1 : Nat)

def decode (f : BinaryFormat) (bits : Nat) : Binary :=
  let negative := bits / twoTo (f.digits + f.exponentBits) % 2 = 1
  let biased := bits / twoTo f.digits % twoTo f.exponentBits
  let fraction := bits % twoTo f.digits
  if biased = twoTo f.exponentBits - 1 then
    if fraction = 0 then .infinite negative else .nan
  else if biased = 0 then .finite negative fraction f.least
  else .finite negative (fraction + twoTo f.digits) (f.least + biased - 1)

end BinaryFormat

def ofFloat (x : Float) : Binary := binary64.decode x.toBits.toNat

def ofFloat32 (x : Float32) : Binary := binary32.decode x.toBits.toNat

/-- `n / d` to the nearest integer, a half going to the even neighbour. -/
def roundDiv (n d : Nat) : Nat :=
  let q := n / d
  let r := n % d
  if 2 * r < d then q
  else if d < 2 * r then q + 1
  else if q % 2 = 0 then q else q + 1

/-- `m · 2 ^ k` for a `k` of either sign, rounded to the nearest integer with ties to even. -/
def shiftRound (m : Nat) (k : Int) : Nat :=
  if 0 ≤ k then m * twoTo k.toNat else roundDiv m (twoTo (-k).toNat)

namespace BinaryFormat

/-- The bit pattern nearest to a value, ties to even and overflow to infinity. -/
def encode (f : BinaryFormat) : Binary → Nat
  | .nan => (twoTo (f.exponentBits + 1) - 1) * twoTo (f.digits - 1)
  | .infinite negative => sign negative + infinity
  | .finite negative mantissa exponent =>
    if mantissa = 0 then sign negative
    else
      let top : Int := (Nat.log2 mantissa : Int) + exponent
      let spacing := max f.least (top - f.digits)
      let rounded := shiftRound mantissa (exponent - spacing)
      -- A carry into the next binade is what adding to the exponent field gives by itself.
      let pattern := (spacing - f.least).toNat * twoTo f.digits + rounded
      sign negative + min pattern infinity
where
  sign (negative : Bool) : Nat := if negative then twoTo (f.digits + f.exponentBits) else 0
  infinity : Nat := (twoTo f.exponentBits - 1) * twoTo f.digits

end BinaryFormat

def ratioExponent (n d : Nat) : Int :=
  let guess : Int := (n.log2 : Int) - d.log2
  let reaches := if 0 ≤ guess then d * twoTo guess.toNat ≤ n else d ≤ n * twoTo (-guess).toNat
  if reaches then guess else guess - 1

/-- The bit pattern nearest to `± n / d`, ties to even and overflow to infinity. -/
def BinaryFormat.encodeRatio (f : BinaryFormat) (negative : Bool) (n d : Nat) : Nat :=
  if n = 0 then BinaryFormat.encode.sign f negative
  else
    let spacing := max f.least (ratioExponent n d - f.digits)
    let rounded :=
      if 0 ≤ spacing then roundDiv n (d * twoTo spacing.toNat) else roundDiv (n * twoTo (-spacing).toNat) d
    let pattern := (spacing - f.least).toNat * twoTo f.digits + rounded
    BinaryFormat.encode.sign f negative + min pattern (BinaryFormat.encode.infinity f)

/-- The float nearest to `± m · 10 ^ e`. Beyond `10 ^ 400` in either direction it is infinite or zero. -/
def ofDecimal (negative : Bool) (m : Nat) (e : Int) : Float :=
  let size : Int := (Nat.toDigits 10 m).length + e
  let bits :=
    if m = 0 || size < -400 then binary64.encodeRatio negative 0 1
    else if 400 < size then binary64.encode (.infinite negative)
    else if 0 ≤ e then binary64.encodeRatio negative (m * tenTo e.toNat) 1
    else binary64.encodeRatio negative m (tenTo (-e).toNat)
  .ofBits (.ofNat bits)

def widen (x : Float32) : Float := .ofBits (.ofNat (binary64.encode (ofFloat32 x)))

def narrow (x : Float) : Float32 := .ofBits (.ofNat (binary32.encode (ofFloat x)))

end LoginRisk.Number
