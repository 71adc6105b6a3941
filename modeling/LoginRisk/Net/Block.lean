import LoginRisk.Net.Address

/-!
Blocks of addresses that share their leading bits, written `address/length`.
-/

namespace LoginRisk

/-- The addresses that agree with `base` in the first `length` bits. -/
structure Block where
  base : Address
  length : Nat
  deriving DecidableEq, Repr

namespace Block

/-- The part of an address that a block of the given length fixes, with the width of the address. -/
def leading (length : Nat) : Address → Nat × Nat
  | .v4 bits => (32, bits.toNat >>> (32 - length))
  | .v6 bits => (128, bits.toNat >>> (128 - length))

def contains (b : Block) (a : Address) : Bool := leading b.length b.base == leading b.length a

def cleared (b : Block) : Block :=
  match b.base with
  | .v4 bits => ⟨.v4 (.ofNat 32 (bits.toNat >>> (32 - b.length) <<< (32 - b.length))), b.length⟩
  | .v6 bits => ⟨.v6 (.ofNat 128 (bits.toNat >>> (128 - b.length) <<< (128 - b.length))), b.length⟩

/-- In a block the parts of an address may have leading zeros, and `::` may stand for no group. -/
def lenient : Address.Strictness := ⟨true, fun n => 8 - n⟩

def read? (text : String) : Option Block :=
  let cs := text.toList
  let four : Option Block := do
    let (n, rest) ← Address.Read.four? lenient.leadingZeros cs
    let (len, rest) ← Address.Read.number? 10 2 33 (← Address.Read.literal? '/' rest)
    if rest.isEmpty then some ⟨.v4 (.ofNat 32 n), len⟩ else none
  let six : Option Block := do
    let (n, rest) ← Address.Read.six? lenient cs
    let (len, rest) ← Address.Read.number? 10 3 129 (← Address.Read.literal? '/' rest)
    if rest.isEmpty then some ⟨.v6 (.ofNat 128 n), len⟩ else none
  four.orElse fun _ => six

end Block

end LoginRisk
