import LoginRisk.Hash.Base64
import Mathlib.Logic.Function.Basic
import Mathlib.Tactic.Lemma

/-!
Bytes of texts and texts of bytes. Neither loses anything, and a character of one byte occurs in a text
as often as its byte occurs among the bytes.
-/

namespace LoginRisk.Hash

private lemma loop_eq_append_drop (bytes : ByteArray) (n : Nat) (done : List UInt8) :
    ByteArray.toList.loop bytes n done = done.reverse ++ bytes.data.toList.drop n := by
  rw [ByteArray.toList.loop]
  split
  · rename_i hn
    have hnext : bytes.data.toList.drop n = bytes.get! n :: bytes.data.toList.drop (n + 1) := by
      rw [List.drop_eq_getElem_cons (by simpa using hn)]
      simp [ByteArray.get!, getElem!_pos bytes.data n hn]
    rw [loop_eq_append_drop bytes (n + 1), hnext, List.reverse_cons, List.append_assoc]
    rfl
  · rename_i hn
    have hend : bytes.data.toList.drop n = [] := List.drop_eq_nil_of_le (by simpa using hn)
    rw [hend, List.append_nil]
termination_by bytes.size - n

lemma utf8_eq_data (s : String) : utf8 s = s.toByteArray.data.toList := by
  rw [utf8, String.toUTF8_eq_toByteArray, ByteArray.toList, loop_eq_append_drop]
  rfl

lemma utf8_eq_flatMap (s : String) : utf8 s = s.toList.flatMap String.utf8EncodeChar := by
  have h : s.toByteArray = (s.toList.flatMap String.utf8EncodeChar).toByteArray := by
    have h := String.toByteArray_ofList (l := s.toList)
    rwa [String.ofList_toList] at h
  rw [utf8_eq_data, h, List.toList_data_toByteArray]

lemma utf8_injective : Function.Injective utf8 := by
  intro s t h
  rw [utf8_eq_data, utf8_eq_data] at h
  exact String.toByteArray_inj.mp (ByteArray.ext (Array.toList_inj.mp h))

/-- A byte of the lower half stands for a character of its own and is part of no other. -/
lemma count_utf8EncodeChar (c : Char) (b : UInt8) (hb : b.toNat < 128) :
    (String.utf8EncodeChar c).count b = if c.val.toNat = b.toNat then 1 else 0 := by
  have hhigh (n : Nat) (h : 128 ≤ n % 256) : b ≠ UInt8.ofNat n := by
    rintro rfl
    rw [UInt8.toNat_ofNat'] at hb
    omega
  unfold String.utf8EncodeChar
  generalize c.val.toNat = v
  dsimp only
  split
  · rename_i h1
    have heq : UInt8.ofNat v = b ↔ v = b.toNat := by
      rw [← UInt8.toNat_inj, UInt8.toNat_ofNat', Nat.mod_eq_of_lt (by omega)]
    simp [List.count_cons, heq]
  · rename_i h1
    have hne : v ≠ b.toNat := by omega
    rw [if_neg hne, List.count_eq_zero]
    intro hmem
    split at hmem
    · simp only [List.mem_cons, List.not_mem_nil, or_false] at hmem
      rcases hmem with h | h <;> exact hhigh _ (by omega) h
    · split at hmem <;> simp only [List.mem_cons, List.not_mem_nil, or_false] at hmem
      · rcases hmem with h | h | h <;> exact hhigh _ (by omega) h
      · rcases hmem with h | h | h | h <;> exact hhigh _ (by omega) h

lemma count_utf8 (s : String) (b : UInt8) (hb : b.toNat < 128) :
    (utf8 s).count b = s.toList.countP fun c => c.val.toNat = b.toNat := by
  rw [utf8_eq_flatMap]
  induction s.toList with
  | nil => rfl
  | cons c cs ih =>
    rw [List.flatMap_cons, List.count_append, ih, count_utf8EncodeChar c b hb, List.countP_cons]
    simp [Nat.add_comm]

lemma base64Char_inj {m n : Nat} (hm : m < 64) (hn : n < 64) (h : base64Char m = base64Char n) :
    m = n := by
  have hall : ∀ i < 64, ∀ j < 64, base64Char i = base64Char j → i = j := by decide +kernel
  exact hall m hm n hn h

/-- Different bytes have different texts: the length tells how many bytes the last characters hold. -/
lemma base64Chars_injective : Function.Injective base64Chars := by
  intro x
  induction x using base64Chars.induct with
  | case1 a b c rest ih =>
    intro y h
    rcases y with _ | ⟨a', _ | ⟨b', _ | ⟨c', rest'⟩⟩⟩
    · simp [base64Chars] at h
    · simp [base64Chars] at h
    · simp [base64Chars] at h
    · simp only [base64Chars, List.cons.injEq] at h
      obtain ⟨h1, h2, h3, h4, hrest⟩ := h
      have ha := a.toNat_lt
      have ha' := a'.toNat_lt
      have hb := b.toNat_lt
      have hb' := b'.toNat_lt
      have hc := c.toNat_lt
      have hc' := c'.toNat_lt
      have h1 := base64Char_inj (by omega) (by omega) h1
      have h2 := base64Char_inj (by omega) (by omega) h2
      have h3 := base64Char_inj (by omega) (by omega) h3
      have h4 := base64Char_inj (by omega) (by omega) h4
      rw [UInt8.toNat_inj.mp (by omega : a.toNat = a'.toNat),
        UInt8.toNat_inj.mp (by omega : b.toNat = b'.toNat),
        UInt8.toNat_inj.mp (by omega : c.toNat = c'.toNat), ih hrest]
  | case2 a b =>
    intro y h
    rcases y with _ | ⟨a', _ | ⟨b', _ | ⟨c', rest'⟩⟩⟩
    · simp [base64Chars] at h
    · simp [base64Chars] at h
    · simp only [base64Chars, List.cons.injEq, and_true] at h
      obtain ⟨h1, h2, h3⟩ := h
      have ha := a.toNat_lt
      have ha' := a'.toNat_lt
      have hb := b.toNat_lt
      have hb' := b'.toNat_lt
      have h1 := base64Char_inj (by omega) (by omega) h1
      have h2 := base64Char_inj (by omega) (by omega) h2
      have h3 := base64Char_inj (by omega) (by omega) h3
      rw [UInt8.toNat_inj.mp (by omega : a.toNat = a'.toNat),
        UInt8.toNat_inj.mp (by omega : b.toNat = b'.toNat)]
    · simp [base64Chars] at h
  | case3 a =>
    intro y h
    rcases y with _ | ⟨a', _ | ⟨b', _ | ⟨c', rest'⟩⟩⟩
    · simp [base64Chars] at h
    · simp only [base64Chars, List.cons.injEq, and_true] at h
      obtain ⟨h1, h2⟩ := h
      have ha := a.toNat_lt
      have ha' := a'.toNat_lt
      have h1 := base64Char_inj (by omega) (by omega) h1
      have h2 := base64Char_inj (by omega) (by omega) h2
      rw [UInt8.toNat_inj.mp (by omega : a.toNat = a'.toNat)]
    · simp [base64Chars] at h
    · simp [base64Chars] at h
  | case4 =>
    intro y h
    rcases y with _ | ⟨a', _ | ⟨b', _ | ⟨c', rest'⟩⟩⟩
    · rfl
    · simp [base64Chars] at h
    · simp [base64Chars] at h
    · simp [base64Chars] at h

lemma base64_injective : Function.Injective base64 :=
  fun _ _ h => base64Chars_injective (String.ofList_injective h)

end LoginRisk.Hash
