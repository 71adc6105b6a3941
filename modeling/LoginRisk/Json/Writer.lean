import LoginRisk.Json.Basic
import LoginRisk.Number.Decimal

/-!
The compact text of a JSON value: no blanks, members in the order in which they stand, floats with
the fewest digits that read back.
-/

namespace LoginRisk.Json

def escapeChar (c : Char) : List Char :=
  match c with
  | '"' => ['\\', '"']
  | '\\' => ['\\', '\\']
  | '\x08' => ['\\', 'b']
  | '\x09' => ['\\', 't']
  | '\x0a' => ['\\', 'n']
  | '\x0c' => ['\\', 'f']
  | '\x0d' => ['\\', 'r']
  | c =>
    if c.toNat < 32 then
      ['\\', 'u', '0', '0', Nat.digitChar (c.toNat / 16), Nat.digitChar (c.toNat % 16)]
    else [c]

def quoted (s : String) : String := .ofList ('"' :: s.toList.flatMap escapeChar ++ ['"'])

/-- The text of a float: positional below `10 ^ 16`, `null` when it is not finite. -/
def floatText (x : Float) : String :=
  match Number.ofFloat x with
  | .finite negative m e => Number.compact Number.binary64 16 negative m e
  | _ => "null"

mutual

def compact : Json → String
  | .null => "null"
  | .bool b => if b then "true" else "false"
  | .number (.whole n) => toString n
  | .number (.float x) => floatText x
  | .string s => quoted s
  | .array items => "[" ++ compactItems items ++ "]"
  | .object members => "\x7b" ++ compactMembers members ++ "\x7d"

def compactItems : List Json → String
  | [] => ""
  | [j] => j.compact
  | j :: rest => j.compact ++ "," ++ compactItems rest

def compactMembers : List (String × Json) → String
  | [] => ""
  | [(name, value)] => quoted name ++ ":" ++ value.compact
  | (name, value) :: rest => quoted name ++ ":" ++ value.compact ++ "," ++ compactMembers rest

end

end LoginRisk.Json
