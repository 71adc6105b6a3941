import LoginRisk.Number.Binary

/-!
Decimal text of binary numbers: with a fixed number of places, and with the fewest digits that read
back as the same number. Where two such texts are equally near to the number, a text without exponents
takes the larger one and a compact text the even one.
-/

namespace LoginRisk.Number

def digitsOf (n : Nat) : List Char := Nat.toDigits 10 n

def padded (width n : Nat) : List Char :=
  let ds := digitsOf n
  List.replicate (width - ds.length) '0' ++ ds

/-- `m · 2 ^ e · 10 ^ places`, rounded to an integer with ties to even. -/
def scaled (places m : Nat) (e : Int) : Nat :=
  shiftRound (m * tenTo places) e

/-- The text of a number with exactly `places` decimals, the exact value rounded with ties to even. -/
def fixed (places : Nat) : Binary → String
  | .nan => "NaN"
  | .infinite negative => if negative then "-inf" else "inf"
  | .finite negative m e =>
    let n := scaled places m e
    let fraction := if places = 0 then [] else '.' :: padded places (n % tenTo places)
    .ofList ((if negative then ['-'] else []) ++ digitsOf (n / tenTo places) ++ fraction)

/-- A positive decimal `0.d₁d₂… · 10 ^ point`. -/
structure Decimal where
  digits : List Char
  point : Int
  deriving DecidableEq, Repr

/-- The least `p` with `m · 2 ^ e < 10 ^ p`, for a positive `m`. -/
def decimalExponent (m : Nat) (e : Int) : Int :=
  if 0 ≤ e then (digitsOf (m * twoTo e.toNat)).length
  else
    let d := twoTo (-e).toNat
    if d ≤ m then (digitsOf (m / d)).length
    else
      -- The value has at most `-e` zeros after the point, so the search succeeds.
      match (List.range ((-e).toNat + 1)).find? fun j => d ≤ m * tenTo (j + 1) with
      | some j => -(j : Int)
      | none => e

inductive Tie where
  | even
  | away
  deriving DecidableEq, Repr

/-- The interval of reals around `m · 2 ^ e` that round to it, in quarters of `2 ^ e`. Below a power
of two the neighbour is half as far away. -/
structure Rounding where
  mantissa : Nat
  exponent : Int
  closeBelow : Bool

namespace Rounding

/-- `c · 10 ^ k` and `x · 2 ^ (exponent - 2)` as integers over one common denominator. -/
def ofDecimal (r : Rounding) (k : Int) (c : Nat) : Nat :=
  c * tenTo k.toNat * twoTo (2 - r.exponent).toNat

def ofQuarters (r : Rounding) (k : Int) (x : Nat) : Nat :=
  x * twoTo (r.exponent - 2).toNat * tenTo (-k).toNat

/-- Whether `c · 10 ^ k` rounds to the number. The ends belong to it when the mantissa is even. -/
def admits (r : Rounding) (k : Int) (c : Nat) : Bool :=
  let lower := r.ofQuarters k (4 * r.mantissa - if r.closeBelow then 1 else 2)
  let upper := r.ofQuarters k (4 * r.mantissa + 2)
  let here := r.ofDecimal k c
  if r.mantissa % 2 = 0 then lower ≤ here && here ≤ upper else lower < here && here < upper

/-- The neighbour of the number on the grid of multiples of `10 ^ k` that rounds to it, and of two the
nearer. -/
def nearest? (r : Rounding) (tie : Tie) (k : Int) : Option Nat :=
  let below := r.ofQuarters k (4 * r.mantissa) / r.ofDecimal k 1
  let above := below + 1
  match r.admits k below, r.admits k above with
  | false, false => none
  | true, false => some below
  | false, true => some above
  | true, true =>
    let value := r.ofQuarters k (4 * r.mantissa)
    let down := value - r.ofDecimal k below
    let up := r.ofDecimal k above - value
    if down < up then some below
    else if up < down then some above
    else if tie = .even && below % 2 = 0 then some below
    else some above

/-- The fewest digits that read back as the number: the first grid, from coarse to fine, with a
point that rounds to it. -/
def shortest (r : Rounding) (tie : Tie) : Decimal :=
  let p := decimalExponent r.mantissa r.exponent
  let found := (List.range 17).findSome? fun (n : Nat) =>
    (r.nearest? tie (p - n - 1)).map fun c => (n + 1, c)
  match found with
  | none => ⟨['0'], p⟩
  | some (n, c) =>
    let ds := digitsOf c
    ⟨(ds.reverse.dropWhile (· == '0')).reverse, p + (ds.length - n : Int)⟩

end Rounding

def rounding (f : BinaryFormat) (m : Nat) (e : Int) : Rounding :=
  ⟨m, e, m == twoTo f.digits && f.least < e⟩

/-- A decimal without an exponent: digits, then zeros or a point as its size asks. -/
def Decimal.positional (d : Decimal) (wholeEnd : List Char) : List Char :=
  if d.point ≤ 0 then '0' :: '.' :: List.replicate (-d.point).toNat '0' ++ d.digits
  else
    let whole := d.point.toNat
    if d.digits.length ≤ whole then
      d.digits ++ List.replicate (whole - d.digits.length) '0' ++ wholeEnd
    else d.digits.take whole ++ '.' :: d.digits.drop whole

/-- A decimal with one digit before the point and an exponent that always has a sign. -/
def Decimal.scientific (d : Decimal) : List Char :=
  let exponent := d.point - 1
  let mantissa :=
    match d.digits with
    | [] => []
    | [c] => [c]
    | c :: cs => c :: '.' :: cs
  mantissa ++ 'e' :: (if exponent < 0 then '-' else '+') :: digitsOf exponent.natAbs

/-- The shortest text of a 64-bit number, without an exponent and without a point when whole. -/
def plain (x : Float) : String :=
  match ofFloat x with
  | .nan => "NaN"
  | .infinite negative => if negative then "-inf" else "inf"
  | .finite negative m e =>
    let body := if m = 0 then ['0'] else ((rounding binary64 m e).shortest .away).positional []
    .ofList (if negative then '-' :: body else body)

/-- The shortest text of a finite number of a format, always with a point or an exponent: positional
from `10 ^ -5` up to `10 ^ fixedBelow`, and with an exponent outside. -/
def compact (f : BinaryFormat) (fixedBelow : Int) (negative : Bool) (m : Nat) (e : Int) : String :=
  let body :=
    if m = 0 then ['0', '.', '0']
    else
      let d := (rounding f m e).shortest .even
      if -5 < d.point && d.point ≤ fixedBelow then d.positional ['.', '0'] else d.scientific
  .ofList (if negative then '-' :: body else body)

end LoginRisk.Number
