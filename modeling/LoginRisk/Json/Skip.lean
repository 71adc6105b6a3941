import LoginRisk.Json.Token

/-!
Passing over a JSON value without keeping it. Only the form is checked: containers may nest to any
depth, numbers may have any size, and surrogates need not come in pairs.
-/

namespace LoginRisk.Json.Skip

open Read (skipSpace hexValue? word)

def digits (cs : List Char) : Except ReadError (List Char) :=
  if cs.head?.any Char.isDigit then .ok (cs.dropWhile Char.isDigit) else .error .invalidNumber

def number (cs : List Char) : Except ReadError (List Char) := do
  let rest ←
    match cs with
    | '0' :: rest => if rest.head?.any Char.isDigit then .error .invalidNumber else .ok rest
    | _ => digits cs
  let rest ←
    match rest with
    | '.' :: fraction => digits fraction
    | _ => .ok rest
  match rest with
  | 'e' :: exponent | 'E' :: exponent =>
    match exponent with
    | '+' :: size | '-' :: size => digits size
    | size => digits size
  | _ => .ok rest

def escapes : List Char := ['"', '\\', '/', 'b', 'f', 'n', 'r', 't']

def string : List Char → Except ReadError (List Char)
  | [] => .error .unexpectedEnd
  | '"' :: rest => .ok rest
  | '\\' :: 'u' :: a :: b :: c :: d :: rest =>
    if [a, b, c, d].all fun h => (hexValue? h).isSome then string rest else .error .invalidString
  | '\\' :: c :: rest => if escapes.contains c then string rest else .error .invalidString
  | c :: rest => if c.toNat < 32 then .error .invalidString else string rest

def scalar : List Char → Except ReadError (List Char)
  | [] => .error .unexpectedEnd
  | '"' :: rest => string rest
  | '-' :: rest => number rest
  | 'n' :: rest => (word "null" .null ('n' :: rest)).map Prod.snd
  | 't' :: rest => (word "true" .null ('t' :: rest)).map Prod.snd
  | 'f' :: rest => (word "false" .null ('f' :: rest)).map Prod.snd
  | c :: rest => if c.isDigit then number (c :: rest) else .error .unexpectedCharacter

inductive Container where
  | array
  | object

inductive Due where
  | value
  | member
  | separator

def Container.entry : Container → Due
  | .array => .value
  | .object => .member

/-- What stands after the values that are still open, the innermost container first. Each step reads at
least one character, so the number of characters is fuel enough. -/
def through : Nat → Due → List Container → List Char → Except ReadError (List Char)
  | _, .separator, [], cs => .ok cs
  | 0, _, _, _ => .error .unexpectedEnd
  | fuel + 1, .value, opened, cs =>
    match skipSpace cs with
    | '[' :: rest =>
      match skipSpace rest with
      | ']' :: rest => through fuel .separator opened rest
      | rest => through fuel .value (.array :: opened) rest
    | '\x7b' :: rest =>
      match skipSpace rest with
      | '\x7d' :: rest => through fuel .separator opened rest
      | rest => through fuel .member (.object :: opened) rest
    | cs =>
      match scalar cs with
      | .error e => .error e
      | .ok rest => through fuel .separator opened rest
  | fuel + 1, .member, opened, cs =>
    match skipSpace cs with
    | '"' :: rest =>
      match string rest with
      | .error e => .error e
      | .ok rest =>
        match skipSpace rest with
        | ':' :: rest => through fuel .value opened rest
        | [] => .error .unexpectedEnd
        | _ => .error .unexpectedCharacter
    | [] => .error .unexpectedEnd
    | _ => .error .unexpectedCharacter
  | fuel + 1, .separator, c :: opened, cs =>
    match c, skipSpace cs with
    | c, ',' :: rest => through fuel c.entry (c :: opened) rest
    | .array, ']' :: rest => through fuel .separator opened rest
    | .object, '\x7d' :: rest => through fuel .separator opened rest
    | _, [] => .error .unexpectedEnd
    | _, _ => .error .unexpectedCharacter

def value (cs : List Char) : Except ReadError (List Char) := through (cs.length + 1) .value [] cs

end LoginRisk.Json.Skip
