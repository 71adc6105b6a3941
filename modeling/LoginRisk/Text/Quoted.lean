import LoginRisk.Text.Printable

/-!
Text between double quotes, with escapes for what cannot be shown.
-/

namespace LoginRisk.Text

def hexDigits (n : Nat) : List Char := Nat.toDigits 16 n

def quoteChar (c : Char) : List Char :=
  match c with
  | '\x00' => ['\\', '0']
  | '\t' => ['\\', 't']
  | '\r' => ['\\', 'r']
  | '\n' => ['\\', 'n']
  | '\\' => ['\\', '\\']
  | '"' => ['\\', '"']
  | c => if isPrintable c then [c] else ['\\', 'u', '\x7b'] ++ hexDigits c.toNat ++ ['\x7d']

/-- The text in double quotes, with what cannot be shown written by its code point. -/
def quote (s : String) : String := .ofList ('"' :: s.toList.flatMap quoteChar ++ ['"'])

end LoginRisk.Text
