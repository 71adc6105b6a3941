import LoginRisk.Json.Reader

/-!
IP addresses and their text forms. Reading takes exactly the standard forms: no leading zeros in the
four-part form, at most four hexadecimal digits in a group, one `::` that stands for at least one
group, and the four-part form at the end of the long form.
-/

namespace LoginRisk

inductive Address where
  | v4 (bits : BitVec 32)
  | v6 (bits : BitVec 128)
  deriving DecidableEq, Repr

namespace Address

structure Strictness where
  leadingZeros : Bool
  /-- How many groups may follow a `::` that follows `n` groups. -/
  groupsAfter : Nat → Nat

/-- The strict form, where `::` stands for at least one group. -/
def strict : Strictness := ⟨false, fun n => 7 - n⟩

namespace Read

/-- A number of one to `most` digits of a base that is below `bound`. -/
def number? (base most bound : Nat) (cs : List Char) : Option (Nat × List Char) :=
  let digit? (c : Char) : Option Nat := (Json.Read.hexValue? c).filter (· < base)
  let digits := cs.takeWhile fun c => (digit? c).isSome
  let n := digits.foldl (fun n c => n * base + (digit? c).getD 0) 0
  if digits.isEmpty || most < digits.length || bound ≤ n then none
  else some (n, cs.drop digits.length)

def octet? (leadingZeros : Bool) (cs : List Char) : Option (Nat × List Char) := do
  let (n, rest) ← number? 10 3 256 cs
  if !leadingZeros && cs.head? == some '0' && 1 < cs.length - rest.length then none
  else some (n, rest)

def literal? (c : Char) : List Char → Option (List Char)
  | d :: rest => if d = c then some rest else none
  | [] => none

def four? (leadingZeros : Bool) (cs : List Char) : Option (Nat × List Char) := do
  let (a, cs) ← octet? leadingZeros cs
  let (b, cs) ← octet? leadingZeros (← literal? '.' cs)
  let (c, cs) ← octet? leadingZeros (← literal? '.' cs)
  let (d, cs) ← octet? leadingZeros (← literal? '.' cs)
  return (((a * 256 + b) * 256 + c) * 256 + d, cs)

/-- As many groups as there are, at most `limit`, and whether the four-part form ended them. `first`
says that no group has been read yet. -/
def groups (leadingZeros : Bool) : Nat → Bool → List Char → List Nat × Bool × List Char
  | 0, _, cs => ([], false, cs)
  | limit + 1, first, cs =>
    let start := if first then some cs else literal? ':' cs
    let four := if 0 < limit then start.bind (four? leadingZeros) else none
    match four with
    | some (n, rest) => ([n / 65536, n % 65536], true, rest)
    | none =>
      match start.bind (number? 16 4 65536) with
      | some (g, rest) =>
        let (more, ended, rest) := groups leadingZeros limit false rest
        (g :: more, ended, rest)
      | none => ([], false, cs)

def six? (s : Strictness) (cs : List Char) : Option (Nat × List Char) := do
  let (head, ended, rest) := groups s.leadingZeros 8 true cs
  let join (gs : List Nat) : Nat := gs.foldl (fun n g => n * 65536 + g) 0
  if head.length = 8 then some (join head, rest)
  else if ended then none
  else
    let rest ← literal? ':' rest
    let rest ← literal? ':' rest
    let (tail, _, rest) := groups s.leadingZeros (s.groupsAfter head.length) true rest
    let gap := List.replicate (8 - head.length - tail.length) 0
    some (join (head ++ gap ++ tail), rest)

end Read

def read? (text : String) : Option Address :=
  let cs := text.toList
  match Read.four? strict.leadingZeros cs with
  | some (n, []) => if cs.length ≤ 15 then some (.v4 (.ofNat 32 n)) else none
  | some _ => none
  | none =>
    match Read.six? strict cs with
    | some (n, []) => some (.v6 (.ofNat 128 n))
    | _ => none

def octets (bits : Nat) : List Nat :=
  [bits >>> 24 % 256, bits >>> 16 % 256, bits >>> 8 % 256, bits % 256]

def segments (bits : Nat) : List Nat :=
  [bits >>> 112 % 65536, bits >>> 96 % 65536, bits >>> 80 % 65536, bits >>> 64 % 65536,
    bits >>> 48 % 65536, bits >>> 32 % 65536, bits >>> 16 % 65536, bits % 65536]

def fourText (bits : Nat) : String :=
  ".".intercalate ((octets bits).map toString)

def groupText (g : Nat) : String := .ofList (Nat.toDigits 16 g)

/-- The first of the longest runs of zeros, as its start and length. -/
def longestZeros (gs : List Nat) : Nat × Nat :=
  (List.range gs.length).foldl
    (fun best i =>
      let len := ((gs.drop i).takeWhile (· == 0)).length
      if best.2 < len then (i, len) else best)
    (0, 0)

/-- The long form: lower-case groups, the first longest run of two or more zeros written `::`, and
the four-part form after `::ffff:`. -/
def sixText (bits : Nat) : String :=
  let gs := segments bits
  if bits >>> 32 = 0xffff then "::ffff:" ++ fourText (bits % 0x100000000)
  else
    let (start, len) := longestZeros gs
    let join (gs : List Nat) : String := ":".intercalate (gs.map groupText)
    if len < 2 then join gs else join (gs.take start) ++ "::" ++ join (gs.drop (start + len))

def text : Address → String
  | .v4 bits => fourText bits.toNat
  | .v6 bits => sixText bits.toNat

end Address

end LoginRisk
