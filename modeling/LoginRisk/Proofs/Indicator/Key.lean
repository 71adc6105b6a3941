import LoginRisk.Attempt.Basic
import LoginRisk.Indicator.Feed
import LoginRisk.Proofs.Text.Search
import Mathlib.Tactic.Lemma

/-!
What an indicator is about, and to which attempts that applies. Two indicators with one key are about the same
thing, so that the later of them replaces the earlier.
-/

namespace LoginRisk

namespace Block

def Covers (b : Block) (a : Address) : Prop :=
  match b.base, a with
  | .v4 x, .v4 y => ∀ i < b.length, x.getMsbD i = y.getMsbD i
  | .v6 x, .v6 y => ∀ i < b.length, x.getMsbD i = y.getMsbD i
  | .v4 _, .v6 _ => False
  | .v6 _, .v4 _ => False

lemma shiftRight_eq_iff {w n : Nat} (x y : BitVec w) :
    x.toNat >>> (w - n) = y.toNat >>> (w - n) ↔ ∀ i < n, x.getMsbD i = y.getMsbD i := by
  constructor
  · intro h i hi
    by_cases hw : i < w
    · have hbit := congrArg (Nat.testBit · (n - 1 - i - (n - w))) h
      simp only [Nat.testBit_shiftRight] at hbit
      rw [BitVec.getMsbD, BitVec.getMsbD, BitVec.getLsbD, BitVec.getLsbD,
        show w - 1 - i = w - n + (n - 1 - i - (n - w)) by omega, hbit]
    · simp [BitVec.getMsbD, hw]
  · intro h
    refine Nat.eq_of_testBit_eq fun j => ?_
    rw [Nat.testBit_shiftRight, Nat.testBit_shiftRight]
    by_cases hw : w - n + j < w
    · have hbit := h (w - 1 - (w - n + j)) (by omega)
      simp only [BitVec.getMsbD, show w - 1 - (w - n + j) < w by omega,
        show w - 1 - (w - 1 - (w - n + j)) = w - n + j by omega] at hbit
      simpa [BitVec.getLsbD] using hbit
    · have hx := BitVec.getLsbD_of_ge x (w - n + j) (by omega)
      have hy := BitVec.getLsbD_of_ge y (w - n + j) (by omega)
      rw [BitVec.getLsbD] at hx hy
      rw [hx, hy]

lemma contains_iff (b : Block) (a : Address) : b.contains a = true ↔ b.Covers a := by
  obtain ⟨base, n⟩ := b
  cases base <;> cases a <;> simp [contains, leading, Covers, shiftRight_eq_iff]

lemma getMsbD_cleared {w : Nat} (n : Nat) (x : BitVec w) (i : Nat) :
    (BitVec.ofNat w (x.toNat >>> (w - n) <<< (w - n))).getMsbD i = (decide (i < n) && x.getMsbD i) := by
  by_cases hw : i < w
  · simp only [BitVec.getMsbD, BitVec.getLsbD_ofNat, Nat.testBit_shiftLeft, Nat.testBit_shiftRight, hw,
      decide_true, Bool.true_and, show w - 1 - i < w by omega]
    by_cases hn : i < n
    · rw [show w - n + (w - 1 - i - (w - n)) = w - 1 - i by omega]
      simp [BitVec.getLsbD, hn, show w - n ≤ w - 1 - i by omega]
    · simp [hn, show ¬w - n ≤ w - 1 - i by omega]
  · simp [BitVec.getMsbD, hw]

lemma covers_cleared (b : Block) (a : Address) : b.cleared.Covers a ↔ b.Covers a := by
  obtain ⟨base, n⟩ := b
  cases base <;> cases a <;> simp +contextual [cleared, Covers, getMsbD_cleared]

lemma covers_base (b : Block) : b.Covers b.base := by
  obtain ⟨base, n⟩ := b
  cases base <;> simp [Covers]

/-- Two blocks become the same when their last bits are cleared if they are of one length and agree up to
there, and only then. -/
theorem cleared_eq_cleared_iff (b c : Block) : b.cleared = c.cleared ↔ b.length = c.length ∧ b.Covers c.base := by
  constructor
  · intro h
    refine ⟨?_, ?_⟩
    · have hlength : ∀ d : Block, d.cleared.length = d.length := fun d => by
        unfold cleared
        cases d.base <;> rfl
      rw [← hlength b, h, hlength c]
    · rw [← covers_cleared, h, covers_cleared]
      exact c.covers_base
  · obtain ⟨base, n⟩ := b
    obtain ⟨other, m⟩ := c
    rintro ⟨rfl : n = m, h⟩
    cases base <;> cases other <;> simp only [Covers] at h
    all_goals
      simp only [cleared, mk.injEq, Address.v4.injEq, Address.v6.injEq, and_true]
      refine BitVec.eq_of_getMsbD_eq fun i _ => ?_
      rw [getMsbD_cleared, getMsbD_cleared]
      by_cases hi : i < n
      · rw [h i hi]
      · simp [hi]

end Block

inductive IndicatorKey where
  | ip (address : Address)
  | cidr (block : Block)
  | userAgent (text : String)
  | emailDomain (text : String)
  | credentialDigest (text : String)
  deriving DecidableEq

namespace IndicatorKey

/-- An attempt comes from the address or the block, names the tool in its user agent, or carries the domain or
the digest. An empty text is part of every user agent and applies to none. -/
def Applies (a : Attempt) : IndicatorKey → Prop
  | .ip address => a.clientAddress = address
  | .cidr block => block.Covers a.clientAddress
  | .userAgent text => text ≠ "" ∧ text.toList <:+: (Text.toLower a.userAgent).toList
  | .emailDomain text => text = Text.toLower a.emailDomain
  | .credentialDigest text => text = Text.toLower (Text.trim a.credentialDigest)

end IndicatorKey

namespace Indicator

/-- What the indicator is about; `none` when its value is no address or block. -/
def key? (i : Indicator) : Option IndicatorKey :=
  let text := Text.toLower (Text.trim i.value)
  match i.kind with
  | .ip => (Address.read? text).map .ip
  | .cidr => (Block.read? text).map fun block => .cidr block.cleared
  | .userAgent => some (.userAgent text)
  | .emailDomain => some (.emailDomain text)
  | .credentialDigest => some (.credentialDigest text)

end Indicator

end LoginRisk
