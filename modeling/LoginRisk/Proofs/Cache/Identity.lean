import LoginRisk.Cache.Key
import LoginRisk.Proofs.Hash.Text
import LoginRisk.Proofs.Net.AddressText
import Mathlib.Data.Rat.Floor

/-!
Which attempts share a cache entry. A field is followed by a separator that address, user agent and
fingerprint may hold themselves, so that the message tells the fields apart as long as two of them hold
equally many separators.
-/

namespace LoginRisk.CacheKey

open Hash Text

/-- Two attempts of one account, from one source, with one device, in one span of time. -/
structure SameFields (s : CacheSettings) (a b : Attempt) : Prop where
  email : a.normalizedEmail = b.normalizedEmail
  address : a.clientAddress = b.clientAddress
  userAgent : a.userAgent = b.userAgent
  fingerprint : a.deviceFingerprint.getD "" = b.deviceFingerprint.getD ""
  span : ⌊(a.timestamp.seconds : ℚ) / s.bucketSeconds.toNat⌋ =
    ⌊(b.timestamp.seconds : ℚ) / s.bucketSeconds.toNat⌋

/-- How often a text holds the separator as a character. -/
def separators (text : String) : ℕ := text.toList.countP fun c => c.val.toNat = separator.toNat

/-- Two attempts whose account and user agent hold equally many separators, as they do when there are
none. -/
def SameSeparators (a b : Attempt) : Prop :=
  separators a.normalizedEmail = separators b.normalizedEmail ∧
  separators a.userAgent = separators b.userAgent

lemma count_separator (text : String) : (utf8 text).count separator = separators text :=
  count_utf8 text separator (by decide)

lemma separator_not_mem_of_chars {text : String}
    (h : ∀ c ∈ text.toList, c.val.toNat ≠ separator.toNat) : separator ∉ utf8 text := by
  rw [← List.count_eq_zero, count_separator, separators, List.countP_eq_zero]
  simpa using h

lemma digitChars_ne_separator : ∀ c ∈ digitChars, c.val.toNat ≠ separator.toNat := by
  intro c hc
  obtain ⟨d, hd, rfl⟩ := List.mem_map.mp hc
  have hall : ∀ d < 16, (Nat.digitChar d).val.toNat ≠ separator.toNat := by decide
  exact hall d (List.mem_range.mp hd)

lemma separator_not_mem_address (a : Address) : separator ∉ utf8 a.text := by
  refine separator_not_mem_of_chars fun c hc => ?_
  rcases a.mem_text hc with hc | rfl | rfl
  · exact digitChars_ne_separator c hc
  · decide
  · decide

lemma toList_toString (n : ℤ) :
    (toString n).toList = if 0 ≤ n then Nat.toDigits 10 n.toNat else '-' :: Nat.toDigits 10 (-n).toNat := by
  rw [Int.toString_eq_repr, Int.repr_eq_if]
  split
  · exact Nat.toList_repr
  · rw [String.toList_append, Nat.toList_repr]
    rfl

lemma toString_injective : Function.Injective (toString : ℤ → String) := by
  intro m n h
  have hminus (k : ℕ) : '-' ∉ Nat.toDigits 10 k := fun hk =>
    absurd (mem_digitChars_of_mem_toDigits (by decide) (by decide) k _ hk) (by decide)
  have hdigits {k l : ℕ} (h : Nat.toDigits 10 k = Nat.toDigits 10 l) : k = l :=
    toDigits_injective (by decide) (by decide) h
  have hchars := congrArg String.toList h
  rw [toList_toString, toList_toString] at hchars
  split at hchars <;> split at hchars
  · have := hdigits hchars
    omega
  · exact absurd (hchars ▸ List.mem_cons_self) (hminus m.toNat)
  · exact absurd (hchars ▸ List.mem_cons_self) (hminus n.toNat)
  · have := hdigits (List.tail_eq_of_cons_eq hchars)
    omega

lemma separator_not_mem_span (n : ℤ) : separator ∉ utf8 (toString n) := by
  refine separator_not_mem_of_chars fun c hc => ?_
  rw [toList_toString] at hc
  split at hc
  · exact digitChars_ne_separator c (mem_digitChars_of_mem_toDigits (by decide) (by decide) _ c hc)
  · rcases List.mem_cons.mp hc with rfl | hc
    · decide
    · exact digitChars_ne_separator c (mem_digitChars_of_mem_toDigits (by decide) (by decide) _ c hc)

lemma message_eq (s : CacheSettings) (a : Attempt) :
    message s a = utf8 a.normalizedEmail ++ separator :: (utf8 a.clientAddress.text ++ separator ::
      (utf8 a.userAgent ++ separator :: (utf8 (a.deviceFingerprint.getD "") ++ separator ::
        (utf8 (toString (bucket s a.timestamp)) ++ [separator])))) := by
  simp [message, fields]

lemma bucket_eq_floor {s : CacheSettings} (hpos : 1 ≤ s.bucketSeconds.toNat)
    (hlt : s.bucketSeconds.toNat < 2 ^ 63) (t : Instant) :
    bucket s t = ⌊(t.seconds : ℚ) / s.bucketSeconds.toNat⌋ := by
  have hmax : max s.bucketSeconds 1 = s.bucketSeconds := by
    change (if s.bucketSeconds ≤ 1 then 1 else s.bucketSeconds) = s.bucketSeconds
    split
    · rename_i hle
      have hle : s.bucketSeconds.toNat ≤ 1 := UInt64.le_iff_toNat_le.mp hle
      exact UInt64.toNat_inj.mp (le_antisymm hpos hle)
    · rfl
  have hsigned : AttemptWindow.signedSeconds s.bucketSeconds = s.bucketSeconds.toNat := by
    refine BitVec.toInt_eq_toNat_of_lt ?_
    change 2 * s.bucketSeconds.toNat < 2 ^ 64
    omega
  rw [bucket, hmax, hsigned, Rat.floor_intCast_div_natCast]

/-- The fields are the same exactly when the message is and the separators inside account and user
agent are as many. -/
lemma sameFields_iff {s : CacheSettings} (hpos : 1 ≤ s.bucketSeconds.toNat)
    (hlt : s.bucketSeconds.toNat < 2 ^ 63) (a b : Attempt) :
    SameFields s a b ↔ message s a = message s b ∧ SameSeparators a b := by
  constructor
  · rintro ⟨hemail, haddress, huserAgent, hfingerprint, hspan⟩
    rw [← bucket_eq_floor hpos hlt, ← bucket_eq_floor hpos hlt] at hspan
    refine ⟨?_, by rw [hemail], by rw [huserAgent]⟩
    rw [message_eq, message_eq, hemail, haddress, huserAgent, hfingerprint, hspan]
  · rintro ⟨hmessage, hemails, huserAgents⟩
    rw [message_eq, message_eq] at hmessage
    rw [← count_separator, ← count_separator] at hemails huserAgents
    -- The account ends where as many separators have been passed, and the address holds none.
    obtain ⟨hemail, hmessage⟩ := append_cons_inj_of_count hemails hmessage
    have haddresses : (utf8 a.clientAddress.text).count separator =
        (utf8 b.clientAddress.text).count separator := by
      rw [List.count_eq_zero.mpr (separator_not_mem_address _),
        List.count_eq_zero.mpr (separator_not_mem_address _)]
    obtain ⟨haddress, hmessage⟩ := append_cons_inj_of_count haddresses hmessage
    obtain ⟨huserAgent, hmessage⟩ := append_cons_inj_of_count huserAgents hmessage
    -- The span holds none either, so that the fingerprint is what is left in front of it.
    have hregroup (x y : Bytes) :
        x ++ separator :: (y ++ [separator]) = (x ++ separator :: y) ++ separator :: [] := by
      simp
    rw [hregroup, hregroup] at hmessage
    obtain ⟨hmessage, -⟩ := append_cons_inj_of_not_mem (by simp) (by simp) hmessage
    obtain ⟨hfingerprint, hspan⟩ := append_cons_inj_of_not_mem (separator_not_mem_span _)
      (separator_not_mem_span _) hmessage
    refine ⟨utf8_injective hemail, Address.text_injective (utf8_injective haddress),
      utf8_injective huserAgent, utf8_injective hfingerprint, ?_⟩
    rw [← bucket_eq_floor hpos hlt, ← bucket_eq_floor hpos hlt]
    exact toString_injective (utf8_injective hspan)

lemma key_eq_iff {secret : Bytes} {s : CacheSettings} {a b : Attempt} :
    key secret s a = key secret s b ↔ hmac secret (message s a) = hmac secret (message s b) :=
  base64_injective.eq_iff

/-- Attempts share a message exactly when their fields are the same, as long as their accounts and user
agents hold equally many separators; so they share a key, where the authentication code does not
collide. -/
theorem sameFields_iff_message_eq (secret : Bytes) {s : CacheSettings}
    (hpos : 1 ≤ s.bucketSeconds.toNat) (hlt : s.bucketSeconds.toNat < 2 ^ 63) (a b : Attempt) :
    (SameFields s a b ↔ message s a = message s b ∧ SameSeparators a b) ∧
    ((hmac secret (message s a) = hmac secret (message s b) → message s a = message s b) →
      (SameFields s a b ↔ key secret s a = key secret s b ∧ SameSeparators a b)) := by
  refine ⟨sameFields_iff hpos hlt a b, fun hcollision => ?_⟩
  have hmessage : message s a = message s b ↔ key secret s a = key secret s b := by
    rw [key_eq_iff]
    exact ⟨congrArg _, hcollision⟩
  rw [sameFields_iff hpos hlt, hmessage]

def sample (email userAgent : String) (fingerprint : Option String) (seconds : Int) : Attempt where
  email
  credentialDigest := ""
  clientAddress := .v4 0xc6336407
  userAgent
  timestamp := ⟨seconds, 0⟩
  requestId := ""
  deviceFingerprint := fingerprint

/-- Within the last hour before 1970, a fingerprint that is missing and one that is empty share a key. -/
theorem hour_before_1970_shares_key :
    1 ≤ ({} : CacheSettings).bucketSeconds.toNat ∧ ({} : CacheSettings).bucketSeconds.toNat < 2 ^ 63 ∧
    SameFields {} (sample " A@B.c" "curl" none (-1)) (sample "a@b.c" "curl" (some "") (-3600)) ∧
    key [7] {} (sample " A@B.c" "curl" none (-1)) = key [7] {} (sample "a@b.c" "curl" (some "") (-3600)) := by
  have hpos : 1 ≤ ({} : CacheSettings).bucketSeconds.toNat := by decide
  have hlt : ({} : CacheSettings).bucketSeconds.toNat < 2 ^ 63 := by decide
  have hmessage : message {} (sample " A@B.c" "curl" none (-1)) =
      message {} (sample "a@b.c" "curl" (some "") (-3600)) := by decide +kernel
  have hseparators : SameSeparators (sample " A@B.c" "curl" none (-1))
      (sample "a@b.c" "curl" (some "") (-3600)) := by
    constructor <;> decide +kernel
  obtain ⟨hiff, hkey⟩ := sameFields_iff_message_eq [7] hpos hlt (sample " A@B.c" "curl" none (-1))
    (sample "a@b.c" "curl" (some "") (-3600))
  have hsame := hiff.mpr ⟨hmessage, hseparators⟩
  exact ⟨hpos, hlt, hsame, ((hkey fun _ => hmessage).mp hsame).1⟩

/-- A separator inside a user agent moves the border to the fingerprint: attempts with two different
devices share a key under every secret. -/
theorem separator_in_userAgent_shares_key :
    message {} (sample "a@b.c" "a\x1fb" (some "c") 0) = message {} (sample "a@b.c" "a" (some "b\x1fc") 0) ∧
    (∀ secret, key secret {} (sample "a@b.c" "a\x1fb" (some "c") 0) =
      key secret {} (sample "a@b.c" "a" (some "b\x1fc") 0)) ∧
    ¬SameFields {} (sample "a@b.c" "a\x1fb" (some "c") 0) (sample "a@b.c" "a" (some "b\x1fc") 0) := by
  have hmessage : message {} (sample "a@b.c" "a\x1fb" (some "c") 0) =
      message {} (sample "a@b.c" "a" (some "b\x1fc") 0) := by decide +kernel
  refine ⟨hmessage, fun secret => by rw [key, key, hmessage], fun hsame => ?_⟩
  exact absurd hsame.userAgent (by decide)

end LoginRisk.CacheKey
