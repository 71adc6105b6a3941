import LoginRisk.Credential.Text

/-!
Weak patterns in text fields.
-/

namespace LoginRisk.Credential

inductive Pattern where
  | keyboardWalk
  | commonPassword
  | lowEntropy
  | moderateLowEntropy
  | characterDominance
  | numericDominance
  | highSpecialChars
  | hexEncoded
  | base64Encoded
  | urlEncoded
  | credentialReuse
  | weakCombination
  deriving DecidableEq, Repr

namespace Pattern

def name : Pattern → String
  | .keyboardWalk => "keyboard_pattern"
  | .commonPassword => "common_password"
  | .lowEntropy => "low_entropy"
  | .moderateLowEntropy => "moderate_low_entropy"
  | .characterDominance => "character_dominance"
  | .numericDominance => "numeric_dominance"
  | .highSpecialChars => "high_special_chars"
  | .hexEncoded => "hex_encoded"
  | .base64Encoded => "base64_encoded"
  | .urlEncoded => "url_encoded"
  | .credentialReuse => "credential_reuse_pattern"
  | .weakCombination => "weak_combination"

/-- Whether the pattern only describes an encoding. Digests are routinely encoded, so that these do
not make a field suspicious. -/
def isEncoding (p : Pattern) : Bool := p = .hexEncoded || p = .base64Encoded || p = .urlEncoded

end Pattern

/-- The two fields of an attempt. Addresses may contain words like `user` after the `@`. -/
inductive Field where
  | email | credential
  deriving DecidableEq, Repr

def keyboardWalks : List String := ["qwerty", "asdf", "zxcv", "qazwsx", "1234", "abcd"]

def weakWords : List String := [
  "password", "pass", "123", "admin", "user", "login", "welcome", "qwerty", "abc", "test", "demo"]

def isHexDigit (c : Char) : Bool :=
  c.isDigit || ('a' ≤ c && c ≤ 'f') || ('A' ≤ c && c ≤ 'F')

def isUrlEncoded : List Char → Bool
  | '%' :: a :: b :: rest => (isHexDigit a && isHexDigit b) || isUrlEncoded (a :: b :: rest)
  | _ :: rest => isUrlEncoded rest
  | [] => false

def containsAny (words : List String) (cs : List Char) : Bool :=
  words.any fun w => Text.hasInfix w.toList cs

def given (p : Pattern) (condition : Bool) : List Pattern := if condition then [p] else []

def encodings (cs : List Char) : List Pattern :=
  let isBase64 (c : Char) : Bool := c.isAlphanum || c = '+' || c = '/' || c = '='
  (if 16 ≤ cs.length && cs.all isHexDigit then [.hexEncoded]
    else given .base64Encoded (16 ≤ cs.length && cs.length % 4 = 0 && cs.all isBase64)) ++
  given .urlEncoded (isUrlEncoded cs)

def patterns (field : Field) (cs : List Char) (entropy : Float) : List Pattern :=
  let lower := Text.lowerChars cs
  let subject :=
    match field with
    | .email => Text.before '@' lower
    | .credential => lower
  let len := cs.length
  let isSpecial (c : Char) : Bool := !Text.isAlphanumeric c && !Text.isBlank c
  if cs.isEmpty then []
  else
    given .keyboardWalk (containsAny keyboardWalks lower) ++
    given .commonPassword (containsAny weakWords subject) ++
    (if entropy < 1.0 then [.lowEntropy]
      else given .moderateLowEntropy (entropy < 2.0 && 4 < len)) ++
    given .characterDominance (4 ≤ len && 0.5 ≤ ratio ((frequencies cs).foldl max 0) len) ++
    given .numericDominance (0.7 < ratio (cs.countP Char.isDigit) len) ++
    (if field = .credential then
      given .highSpecialChars (0.3 < ratio (cs.countP isSpecial) len) ++ encodings cs
    else [])

/-- What is wrong with a credential because of the address that it belongs to. -/
def crossPatterns (email credential : String) : List Pattern :=
  let (name, stem) := splitEmail email
  let secret := Text.lowerChars credential.toList
  let reused := [name, stem].any fun part => 3 < part.length && Text.hasInfix part secret
  given .credentialReuse reused ++
  given .weakCombination
    ((Text.trimChars email.toList).length < 6 || credential.length < 10 ||
      email.toList.count '@' ≠ 1)

end LoginRisk.Credential
