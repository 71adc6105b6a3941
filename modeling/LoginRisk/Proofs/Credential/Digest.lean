import LoginRisk.Credential.Analyze
import LoginRisk.Proofs.Text.Case
import LoginRisk.Proofs.Text.Search

/-!
What the analysis finds in an opaque digest. Of the words that it looks for only those that are hexadecimal
themselves occur in a digest: `1234` and `abcd` of the keyboard walks, `123` and `abc` of the weak words. About one
digest in thirty shows one of them; the others are suspicious for their statistics or for their address alone.
-/

namespace LoginRisk.Credential

/-- A text as long as a SHA-256 digest and written like one, in either case. -/
structure IsDigest (s : String) : Prop where
  length : s.toList.length = 64
  digits : ∀ c ∈ s.toList, isHexDigit c = true

instance (s : String) : Decidable (IsDigest s) :=
  decidable_of_iff (s.toList.length = 64 ∧ s.toList.all isHexDigit = true)
    ⟨fun h => ⟨h.1, List.all_eq_true.mp h.2⟩, fun h => ⟨h.length, List.all_eq_true.mpr h.digits⟩⟩

/-- Whether a word occurs in a text of ASCII characters in either case. -/
def Shows (s word : String) : Prop := word.toList <:+: s.toList.map Char.toLower

instance (s word : String) : Decidable (Shows s word) := inferInstanceAs (Decidable (_ <:+: _))

namespace Pattern

def isStatistical (p : Pattern) : Bool :=
  p = .lowEntropy || p = .moderateLowEntropy || p = .characterDominance || p = .numericDominance ||
    p = .highSpecialChars

def isCrossField (p : Pattern) : Bool := p = .credentialReuse || p = .weakCombination

lemma name_injective : Function.Injective name := by
  intro p q h
  cases p <;> cases q <;> first | rfl | exact absurd h (by decide)

lemma name_mem_map {p : Pattern} {ps : List Pattern} : p.name ∈ ps.map name ↔ p ∈ ps :=
  List.mem_map_of_injective name_injective

lemma not_isEncoding_iff (p : Pattern) :
    p.isEncoding = false ↔
      p = .keyboardWalk ∨ p = .commonPassword ∨ (p.isStatistical || p.isCrossField) = true := by
  cases p <;> decide

end Pattern

lemma mem_given {p q : Pattern} {condition : Bool} : p ∈ given q condition ↔ p = q ∧ condition = true := by
  unfold given
  split <;> simp_all

lemma isEncoding_of_mem_encodings {cs : List Char} {p : Pattern} (h : p ∈ encodings cs) : p.isEncoding = true := by
  simp only [encodings, List.mem_append, mem_given] at h
  obtain h | ⟨rfl, -⟩ := h
  · split at h
    · rw [List.mem_singleton.mp h]
      rfl
    · rw [(mem_given.mp h).1]
      rfl
  · rfl

lemma mem_patterns_iff {p : Pattern} (hencoding : p.isEncoding = false) (hstatistical : p.isStatistical = false)
    {cs : List Char} (hcs : cs ≠ []) (entropy : Float) :
    p ∈ patterns .credential cs entropy ↔
      p = .keyboardWalk ∧ containsAny keyboardWalks (Text.lowerChars cs) = true ∨
      p = .commonPassword ∧ containsAny weakWords (Text.lowerChars cs) = true := by
  simp only [Pattern.isStatistical, Bool.or_eq_false_iff, decide_eq_false_iff_not] at hstatistical
  have hencodings : p ∉ encodings cs := fun h => by simp [isEncoding_of_mem_encodings h] at hencoding
  have hentropy (b : Bool) : p ∉ (if entropy < 1.0 then [.lowEntropy] else given .moderateLowEntropy b) := by
    split <;> simp [mem_given, hstatistical]
  simp [patterns, mem_given, hencodings, hentropy, hcs, hstatistical]

lemma containsAny_iff {words : List String} {cs : List Char} :
    containsAny words cs = true ↔ ∃ w ∈ words, w.toList <:+: cs := by
  simp [containsAny, Text.hasInfix_iff]

/-- Only words of hexadecimal digits occur in a text of hexadecimal digits. -/
lemma containsAny_iff_of_digits (words : List String) {cs : List Char} (h : ∀ c ∈ cs, isHexDigit c = true) :
    containsAny words cs = true ↔ ∃ w ∈ words.filter fun w => w.toList.all isHexDigit, w.toList <:+: cs := by
  simp only [containsAny_iff, List.mem_filter, and_assoc]
  refine exists_congr fun w => and_congr_right fun _ => (and_iff_right_of_imp fun hw => ?_).symm
  exact List.all_eq_true.mpr fun c hc => h c (hw.subset hc)

lemma isAscii_of_isHexDigit {c : Char} (h : isHexDigit c = true) : c.toNat < 128 := by
  simp only [isHexDigit, Char.isDigit, Bool.or_eq_true, Bool.and_eq_true, decide_eq_true_eq, Char.le_def,
    UInt32.le_iff_toNat_le] at h
  have hc : c.toNat = c.val.toNat := rfl
  have h9 : '9'.val.toNat = 57 := rfl
  have hf : 'f'.val.toNat = 102 := rfl
  have hF : 'F'.val.toNat = 70 := rfl
  omega

lemma isHexDigit_toLower {c : Char} (h : isHexDigit c = true) : isHexDigit c.toLower = true :=
  Text.ascii_induction (P := fun c => isHexDigit c = true → isHexDigit c.toLower = true) (by decide +kernel)
    (isAscii_of_isHexDigit h) h

namespace IsDigest

variable {digest : String}

lemma ne_nil (h : IsDigest digest) : digest.toList ≠ [] := by
  intro hnil
  have hlength := h.length
  simp [hnil] at hlength

lemma containsAny_iff (h : IsDigest digest) (words : List String) :
    containsAny words (Text.lowerChars digest.toList) = true ↔
      ∃ w ∈ words.filter fun w => w.toList.all isHexDigit, Shows digest w := by
  have hlower : Text.lowerChars digest.toList = digest.toList.map Char.toLower :=
    Text.lowerAfter_of_ascii (fun c hc => isAscii_of_isHexDigit (h.digits c hc)) []
  rw [hlower, containsAny_iff_of_digits]
  · rfl
  · exact List.forall_mem_map.mpr fun c hc => isHexDigit_toLower (h.digits c hc)

lemma keyboardWalks_iff (h : IsDigest digest) :
    containsAny keyboardWalks (Text.lowerChars digest.toList) = true ↔ Shows digest "1234" ∨ Shows digest "abcd" := by
  have hwords : (keyboardWalks.filter fun w => w.toList.all isHexDigit) = ["1234", "abcd"] := by decide
  rw [h.containsAny_iff, hwords]
  simp

lemma weakWords_iff (h : IsDigest digest) :
    containsAny weakWords (Text.lowerChars digest.toList) = true ↔ Shows digest "123" ∨ Shows digest "abc" := by
  have hwords : (weakWords.filter fun w => w.toList.all isHexDigit) = ["123", "abc"] := by decide
  rw [h.containsAny_iff, hwords]
  simp

end IsDigest

lemma Shows.of_part {s word part : String} (h : Shows s word) (hpart : part.toList <:+: word.toList) : Shows s part :=
  hpart.trans h

lemma isCrossField_of_mem_crossPatterns {email credential : String} {p : Pattern}
    (h : p ∈ crossPatterns email credential) : p.isCrossField = true := by
  simp only [crossPatterns, List.mem_append, mem_given] at h
  obtain ⟨rfl, -⟩ | ⟨rfl, -⟩ := h <;> rfl

lemma name_mem_analyze {email credential : String} {p : Pattern} :
    p.name ∈ (analyze email credential).credential.patterns ↔
      p ∈ patterns .credential credential.toList (entropy credential) ++ crossPatterns email credential :=
  Pattern.name_mem_map

lemma word_mem_analyze {p : Pattern} (hencoding : p.isEncoding = false) (hstatistical : p.isStatistical = false)
    (hcross : p.isCrossField = false) (email : String) {credential : String} (hcredential : credential.toList ≠ []) :
    p.name ∈ (analyze email credential).credential.patterns ↔
      p = .keyboardWalk ∧ containsAny keyboardWalks (Text.lowerChars credential.toList) = true ∨
      p = .commonPassword ∧ containsAny weakWords (Text.lowerChars credential.toList) = true := by
  have hnot : p ∉ crossPatterns email credential := fun h => by
    simp [isCrossField_of_mem_crossPatterns h] at hcross
  rw [name_mem_analyze, List.mem_append, or_iff_left hnot, mem_patterns_iff hencoding hstatistical hcredential]

lemma IsDigest.keyboardWalk_iff {digest : String} (h : IsDigest digest) (email : String) :
    Pattern.keyboardWalk.name ∈ (analyze email digest).credential.patterns ↔
      Shows digest "1234" ∨ Shows digest "abcd" := by
  rw [word_mem_analyze rfl rfl rfl email h.ne_nil, ← h.keyboardWalks_iff]
  simp

lemma IsDigest.commonPassword_iff {digest : String} (h : IsDigest digest) (email : String) :
    Pattern.commonPassword.name ∈ (analyze email digest).credential.patterns ↔
      Shows digest "123" ∨ Shows digest "abc" := by
  rw [word_mem_analyze rfl rfl rfl email h.ne_nil, ← h.weakWords_iff]
  simp

lemma suspicious_iff (email credential : String) :
    (analyze email credential).credential.suspicious = true ↔
      Pattern.keyboardWalk.name ∈ (analyze email credential).credential.patterns ∨
      Pattern.commonPassword.name ∈ (analyze email credential).credential.patterns ∨
      ∃ p : Pattern, (p.isStatistical || p.isCrossField) = true ∧
        p.name ∈ (analyze email credential).credential.patterns := by
  have hany : (analyze email credential).credential.suspicious = true ↔
      ∃ p : Pattern, p.isEncoding = false ∧ p.name ∈ (analyze email credential).credential.patterns := by
    simp only [analyze, features, Pattern.name_mem_map, List.any_eq_true, Bool.not_eq_true', and_comm]
  rw [hany]
  simp only [Pattern.not_isEncoding_iff, or_and_right, exists_or, exists_eq_left]

/-- The words that the analysis finds in a digest. It finds none just in a digest without `123` and `abc`, and such
a digest is suspicious for its statistics or for its address alone. -/
theorem words_of_digest (email : String) {digest : String} (h : IsDigest digest) :
    let found := (analyze email digest).credential
    ("keyboard_pattern" ∈ found.patterns ↔ Shows digest "1234" ∨ Shows digest "abcd") ∧
    ("common_password" ∈ found.patterns ↔ Shows digest "123" ∨ Shows digest "abc") ∧
    ("keyboard_pattern" ∉ found.patterns ∧ "common_password" ∉ found.patterns ↔
      ¬Shows digest "123" ∧ ¬Shows digest "abc") ∧
    (found.suspicious = true ↔ Shows digest "123" ∨ Shows digest "abc" ∨
      ∃ p : Pattern, (p.isStatistical || p.isCrossField) = true ∧ p.name ∈ found.patterns) := by
  intro found
  have hwalk : "keyboard_pattern" ∈ found.patterns ↔ Shows digest "1234" ∨ Shows digest "abcd" :=
    h.keyboardWalk_iff email
  have hword : "common_password" ∈ found.patterns ↔ Shows digest "123" ∨ Shows digest "abc" :=
    h.commonPassword_iff email
  -- a digest that shows a keyboard walk shows a weak word as well
  have hsub : Shows digest "1234" ∨ Shows digest "abcd" → Shows digest "123" ∨ Shows digest "abc" :=
    Or.imp (·.of_part (by decide)) (·.of_part (by decide))
  refine ⟨hwalk, hword, ?_, ?_⟩
  · rw [hwalk, hword]
    exact ⟨fun h => not_or.mp h.2, fun h => ⟨fun hs => not_or.mpr h (hsub hs), not_or.mpr h⟩⟩
  · calc found.suspicious = true
        ↔ (Shows digest "1234" ∨ Shows digest "abcd") ∨ (Shows digest "123" ∨ Shows digest "abc") ∨
            ∃ p : Pattern, (p.isStatistical || p.isCrossField) = true ∧ p.name ∈ found.patterns := by
          rw [← hwalk, ← hword]
          exact suspicious_iff email digest
      _ ↔ Shows digest "123" ∨ Shows digest "abc" ∨
            ∃ p : Pattern, (p.isStatistical || p.isCrossField) = true ∧ p.name ∈ found.patterns := by
          rw [← or_assoc, or_iff_right_of_imp hsub, or_assoc]

theorem words_of_plain_digest :
    let digest := "5e884898da28047151d0e56f8dc6292773603d0d6aabbdd62a11ef721d1542d8"
    let found := (analyze "alice.smith@example.com" digest).credential
    IsDigest digest ∧ "keyboard_pattern" ∉ found.patterns ∧ "common_password" ∉ found.patterns ∧
    (found.suspicious = true →
      ∃ p : Pattern, (p.isStatistical || p.isCrossField) = true ∧ p.name ∈ found.patterns) := by
  intro digest found
  have hdigest : IsDigest digest := by decide +kernel
  have hplain : ¬Shows digest "123" ∧ ¬Shows digest "abc" := by decide +kernel
  obtain ⟨-, -, hwords, hsuspicious⟩ := words_of_digest "alice.smith@example.com" hdigest
  obtain ⟨hwalk, hword⟩ := hwords.mpr hplain
  refine ⟨hdigest, hwalk, hword, fun h => ?_⟩
  exact ((hsuspicious.mp h).resolve_left hplain.1).resolve_left hplain.2

/-- A digest with `1234` in it counts as a keyboard walk and as a weak word. -/
theorem digest_shows_walk :
    let digest := "8a15fadc48d9f05e22123427d4564f5ca35293abfc1a5afdbcdfd8cb50353ad2"
    let found := (analyze "alice.smith@example.com" digest).credential
    IsDigest digest ∧ "keyboard_pattern" ∈ found.patterns ∧ "common_password" ∈ found.patterns ∧
    found.suspicious = true := by
  intro digest found
  have hdigest : IsDigest digest := by decide +kernel
  have hwalk : "keyboard_pattern" ∈ found.patterns := (hdigest.keyboardWalk_iff _).mpr (.inl (by decide))
  have hword : "common_password" ∈ found.patterns := (hdigest.commonPassword_iff _).mpr (.inl (by decide))
  exact ⟨hdigest, hwalk, hword, (suspicious_iff _ _).mpr (.inl hwalk)⟩

end LoginRisk.Credential
