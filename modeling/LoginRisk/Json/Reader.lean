import LoginRisk.Json.Skip

/-!
Reading JSON text. Values may nest 127 deep, and the values of chosen members are passed over.
-/

namespace LoginRisk.Json

namespace Read

variable (skips : Nat → String → Bool)

mutual

/-- A value. `depth` is how many more containers may be opened, and each call reads at least one
character, so the number of characters is fuel enough. -/
def value : Nat → Nat → List Char → Except ReadError (Json × List Char)
  | 0, _, _ => .error .unexpectedEnd
  | fuel + 1, depth, cs =>
    match skipSpace cs with
    | [] => .error .unexpectedEnd
    | 'n' :: rest => word "null" .null ('n' :: rest)
    | 't' :: rest => word "true" (.bool true) ('t' :: rest)
    | 'f' :: rest => word "false" (.bool false) ('f' :: rest)
    | '"' :: rest => do
      let (s, rest) ← string rest
      return (.string s, rest)
    | '[' :: rest =>
      if depth = 0 then .error .tooDeep
      else
        match skipSpace rest with
        | ']' :: rest => .ok (.array [], rest)
        | rest => do
          let (first, rest) ← value fuel (depth - 1) rest
          let (items, rest) ← items fuel (depth - 1) [first] rest
          return (.array items, rest)
    | '\x7b' :: rest =>
      if depth = 0 then .error .tooDeep
      else
        match skipSpace rest with
        | '\x7d' :: rest => .ok (.object [], rest)
        | rest => do
          let (first, rest) ← member fuel (depth - 1) rest
          let (members, rest) ← members fuel (depth - 1) [first] rest
          return (.object members, rest)
    | '-' :: rest => do
      let (n, rest) ← number true rest
      return (.number n, rest)
    | c :: rest => do
      if !c.isDigit then .error .unexpectedCharacter
      else
        let (n, rest) ← number false (c :: rest)
        return (.number n, rest)

/-- The items after the first, `done` holding those read with the latest first. -/
def items : Nat → Nat → List Json → List Char → Except ReadError (List Json × List Char)
  | 0, _, _, _ => .error .unexpectedEnd
  | fuel + 1, depth, done, cs =>
    match skipSpace cs with
    | ']' :: rest => .ok (done.reverse, rest)
    | ',' :: rest => do
      let (next, rest) ← value fuel depth rest
      items fuel depth (next :: done) rest
    | [] => .error .unexpectedEnd
    | _ => .error .unexpectedCharacter

/-- A name, a colon and a value. A value that is passed over is taken for `null`. -/
def member : Nat → Nat → List Char → Except ReadError ((String × Json) × List Char)
  | 0, _, _ => .error .unexpectedEnd
  | fuel + 1, depth, cs =>
    match skipSpace cs with
    | '"' :: rest => do
      let (name, rest) ← string rest
      match skipSpace rest with
      | ':' :: rest =>
        if skips depth name then
          let rest ← Skip.value rest
          return ((name, .null), rest)
        else
          let (v, rest) ← value fuel depth rest
          return ((name, v), rest)
      | [] => .error .unexpectedEnd
      | _ => .error .unexpectedCharacter
    | [] => .error .unexpectedEnd
    | _ => .error .unexpectedCharacter

def members : Nat → Nat → List (String × Json) → List Char → Except ReadError (List (String × Json) × List Char)
  | 0, _, _, _ => .error .unexpectedEnd
  | fuel + 1, depth, done, cs =>
    match skipSpace cs with
    | '\x7d' :: rest => .ok (done.reverse, rest)
    | ',' :: rest => do
      let (next, rest) ← member fuel depth rest
      members fuel depth (next :: done) rest
    | [] => .error .unexpectedEnd
    | _ => .error .unexpectedCharacter

end

end Read

def deepest : Nat := 127

/-- The value that a whole text stands for. Members whose values are passed over are chosen by their
name and by how many more containers may be opened inside them. -/
def readSkipping (skips : Nat → String → Bool) (text : String) : Except ReadError Json := do
  let cs := text.toList
  let (j, rest) ← Read.value skips (2 * cs.length + 2) deepest cs
  if (Read.skipSpace rest).isEmpty then return j else .error .trailingCharacters

def read (text : String) : Except ReadError Json := readSkipping (fun _ _ => false) text

/-- An array of records with the given fields. Other members of a record are passed over. -/
def readRecords (fields : List String) (text : String) : Except ReadError Json :=
  readSkipping (fun depth name => depth + 2 = deepest && !fields.contains name) text

end LoginRisk.Json
