import LoginRisk.Json.Reader

/-!
The small parts of a TOML document: blanks, comments, ends of lines, strings and keys. Each function
takes characters off the front and answers what is left.
-/

namespace LoginRisk.Toml

def isBlank (c : Char) : Bool := c == ' ' || c == '\t'

def skipBlanks (cs : List Char) : List Char := cs.dropWhile isBlank

/-- A character that may stand in comments and strings: a tab, or anything but control characters of
ASCII. -/
def isPlain (c : Char) : Bool := c == '\t' || (' ' ≤ c && c ≤ '~') || 0x80 ≤ c.toNat

def lineEnd? : List Char → Option (List Char)
  | '\n' :: rest => some rest
  | '\r' :: '\n' :: rest => some rest
  | _ => none

def skipComment : List Char → List Char
  | '#' :: rest => rest.dropWhile isPlain
  | cs => cs

/-- The end of a line, which may be the end of the text, after blanks and a comment. -/
def restOfLine? (cs : List Char) : Option (List Char) :=
  match skipComment (skipBlanks cs) with
  | [] => some []
  | cs => lineEnd? cs

def skipBlankLines : List Char → List Char
  | '\r' :: '\n' :: rest => skipBlankLines rest
  | c :: rest => if isBlank c || c == '\n' then skipBlankLines rest else c :: rest
  | [] => []

def skipGaps : Nat → List Char → List Char
  | 0, cs => cs
  | rounds + 1, cs =>
    match skipBlankLines cs with
    | '#' :: rest => skipGaps rounds (rest.dropWhile isPlain)
    | cs => cs

def codePoint? (digits : Nat) (cs : List Char) : Option (Char × List Char) := do
  let values ← (cs.take digits).mapM Json.Read.hexValue?
  let n := values.foldl (fun n d => n * 16 + d) 0
  if values.length = digits && (n < 0xD800 || (0xE000 ≤ n && n < 0x110000)) then
    some (Char.ofNat n, cs.drop digits)
  else none

def escape? : List Char → Option (Char × List Char)
  | '"' :: rest => some ('"', rest)
  | '\\' :: rest => some ('\\', rest)
  | 'b' :: rest => some ('\x08', rest)
  | 'f' :: rest => some ('\x0c', rest)
  | 'n' :: rest => some ('\n', rest)
  | 'r' :: rest => some ('\r', rest)
  | 't' :: rest => some ('\t', rest)
  | 'u' :: rest => codePoint? 4 rest
  | 'U' :: rest => codePoint? 8 rest
  | _ => none

def basicBody : Nat → List Char → List Char → Option (String × List Char)
  | 0, _, _ => none
  | _, _, [] => none
  | fuel + 1, done, c :: rest =>
    if c == '"' then some (.ofList done.reverse, rest)
    else if c == '\\' then do
      let (d, rest) ← escape? rest
      basicBody fuel (d :: done) rest
    else if isPlain c then basicBody fuel (c :: done) rest
    else none

/-- Three quotes that close a string over several lines, with up to two more that belong to it. -/
def closing? (quote : Char) (cs : List Char) : Option (List Char × List Char) :=
  let run := (cs.take 5).takeWhile (· == quote)
  if run.length < 3 then none else some (run.drop 3, cs.drop run.length)

/-- What a backslash at the end of a line skips: the end of the line and all blank lines and blanks
after it. -/
def continuation? (cs : List Char) : Option (List Char) := (lineEnd? (skipBlanks cs)).map skipBlankLines

/-- The rest of a string over several lines. Escapes count only between double quotes. -/
def multilineBody (quote : Char) : Nat → List Char → List Char → Option (String × List Char)
  | 0, _, _ => none
  | _, _, [] => none
  | fuel + 1, done, c :: rest =>
    match closing? quote (c :: rest), lineEnd? (c :: rest) with
    | some (quotes, rest), _ => some (.ofList (quotes ++ done).reverse, rest)
    | none, some rest => multilineBody quote fuel ('\n' :: done) rest
    | none, none =>
      if c == '\\' && quote == '"' then
        match continuation? rest with
        | some rest => multilineBody quote fuel done rest
        | none => do
          let (d, rest) ← escape? rest
          multilineBody quote fuel (d :: done) rest
      else if isPlain c then multilineBody quote fuel (c :: done) rest
      else none

/-- A string over several lines after its opening quotes; an end of line right there does not count. -/
def multiline? (quote : Char) (cs : List Char) : Option (String × List Char) :=
  multilineBody quote (cs.length + 1) [] ((lineEnd? cs).getD cs)

def literalBody? (cs : List Char) : Option (String × List Char) :=
  match cs.dropWhile fun c => isPlain c && c != '\'' with
  | '\'' :: rest => some (.ofList (cs.takeWhile fun c => isPlain c && c != '\''), rest)
  | _ => none

def lineString? : List Char → Option (String × List Char)
  | '"' :: rest => basicBody (rest.length + 1) [] rest
  | '\'' :: rest => literalBody? rest
  | _ => none

def string? : List Char → Option (String × List Char)
  | '"' :: '"' :: '"' :: rest => multiline? '"' rest
  | '\'' :: '\'' :: '\'' :: rest => multiline? '\'' rest
  | cs => lineString? cs

def isBareKey (c : Char) : Bool := c.isAlphanum || c == '-' || c == '_'

def keyPart? (cs : List Char) : Option (String × List Char) :=
  match cs with
  | '"' :: _ | '\'' :: _ => lineString? cs
  | _ =>
    let word := cs.takeWhile isBareKey
    if word.isEmpty then none else some (.ofList word, cs.dropWhile isBareKey)

def keyParts? : Nat → List Char → Option (List String × List Char)
  | 0, _ => none
  | fuel + 1, cs => do
    let (part, rest) ← keyPart? (skipBlanks cs)
    match skipBlanks rest with
    | '.' :: rest =>
      let (parts, rest) ← keyParts? fuel rest
      some (part :: parts, rest)
    | rest => some ([part], rest)

def key? (cs : List Char) : Option (List String × List Char) := keyParts? (cs.length + 1) cs

end LoginRisk.Toml
