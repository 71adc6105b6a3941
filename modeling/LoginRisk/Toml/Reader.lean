import LoginRisk.Toml.Number
import LoginRisk.Toml.Table
import LoginRisk.Toml.Text

/-!
Reading TOML documents. A document becomes a JSON object; its dates become objects that no setting
accepts.
-/

namespace LoginRisk.Toml

/-- How deep arrays and inline tables may nest, and how many parts a key may have. -/
def deepest : Nat := 79

def found {α : Type} : Option α → Except DocumentError α
  | some a => .ok a
  | none => .error .malformed

def word? (word : String) (j : Json) (cs : List Char) : Option (Json × List Char) :=
  if word.toList.isPrefixOf cs then some (j, cs.drop word.length) else none

def scalar? (cs : List Char) : Option (Json × List Char) :=
  match cs with
  | '"' :: _ | '\'' :: _ => (string? cs).map fun p => (.string p.1, p.2)
  | 't' :: _ => word? "true" (.bool true) cs
  | 'f' :: _ => word? "false" (.bool false) cs
  | _ => (moment? cs).orElse fun _ => number? cs

def assignedKey (cs : List Char) : Except DocumentError (List String × String × List Char) := do
  let (parts, rest) ← found (key? cs)
  if deepest < parts.length then .error .tooDeep
  else
    match parts.getLast?, rest with
    | some last, '=' :: rest => return (parts.dropLast, last, rest)
    | _, _ => .error .malformed

mutual

/-- A value; `depth` is how much deeper it may nest. Every step of the group takes a character or comes
right before one that does, so that twice the length of the text is fuel enough. -/
def value : Nat → Nat → List Char → Except DocumentError (Json × List Char)
  | 0, _, _ => .error .malformed
  | fuel + 1, depth, cs =>
    match cs with
    | '[' :: rest =>
      match depth with
      | 0 => .error .tooDeep
      | depth + 1 => arrayItems fuel depth [] (skipGaps rest.length rest)
    | '\x7b' :: rest =>
      match depth with
      | 0 => .error .tooDeep
      | depth + 1 =>
        match skipBlanks rest with
        | '\x7d' :: rest => .ok (.object [], rest)
        | rest => inlineItems fuel depth [] rest
    | cs => found (scalar? cs)

/-- The items of an array up to its bracket; `done` holds those read, the last one first. -/
def arrayItems : Nat → Nat → List Json → List Char → Except DocumentError (Json × List Char)
  | 0, _, _, _ => .error .malformed
  | fuel + 1, depth, done, cs =>
    match cs with
    | ']' :: rest => .ok (.array done.reverse, rest)
    | cs => do
      let (j, rest) ← value fuel depth cs
      match skipGaps rest.length rest with
      | ',' :: rest => arrayItems fuel depth (j :: done) (skipGaps rest.length rest)
      | ']' :: rest => return (.array (j :: done).reverse, rest)
      | _ => .error .malformed

def inlineItems : Nat → Nat → Items → List Char → Except DocumentError (Json × List Char)
  | 0, _, _, _ => .error .malformed
  | fuel + 1, depth, items, cs => do
    let (path, last, rest) ← assignedKey cs
    let (j, rest) ← value fuel depth (skipBlanks rest)
    let items ← Items.assign last j true path items
    match skipBlanks rest with
    | ',' :: rest => inlineItems fuel depth items rest
    | '\x7d' :: rest => return (.object (itemsToJson items), rest)
    | _ => .error .malformed

end

def header (closing : List Char) (cs : List Char) : Except DocumentError (List String × List Char) := do
  let (parts, rest) ← found (key? cs)
  if deepest < parts.length then .error .tooDeep
  else if closing.isPrefixOf rest then return (parts, rest.drop closing.length)
  else .error .malformed

def openHeader (openLast : String → Items → Except DocumentError Items) (parts : List String)
    (items : Items) : Except DocumentError Items :=
  match parts.getLast? with
  | none => .error .malformed
  | some last => Items.changeAt (openLast last) parts.dropLast items

/-- One line and what is left: its effect on the path of the table at hand and on the tables. -/
def line (path : List String) (items : Items) (cs : List Char) :
    Except DocumentError (List String × Items × List Char) :=
  match cs with
  | '[' :: '[' :: rest => do
    let (parts, rest) ← header [']', ']'] rest
    return (parts, ← openHeader Items.openNext parts items, ← found (restOfLine? rest))
  | '[' :: rest => do
    let (parts, rest) ← header [']'] rest
    return (parts, ← openHeader Items.openTable parts items, ← found (restOfLine? rest))
  | cs => do
    let (keyPath, last, rest) ← assignedKey cs
    let (j, rest) ← value (2 * rest.length + 2) deepest (skipBlanks rest)
    let items ← Items.changeAt (Items.assign last j true keyPath) path items
    return (path, items, ← found (restOfLine? rest))

def lines : Nat → List String → Items → List Char → Except DocumentError Items
  | 0, _, _, _ => .error .malformed
  | fuel + 1, path, items, cs =>
    match skipBlanks cs with
    | [] => .ok items
    | '#' :: rest => do lines fuel path items (← found (restOfLine? ('#' :: rest)))
    | c :: rest =>
      match lineEnd? (c :: rest) with
      | some rest => lines fuel path items rest
      | none => do
        let (path, items, rest) ← line path items (c :: rest)
        lines fuel path items rest

/-- The object that a document stands for. A byte order mark in front does not count. -/
def read (text : String) : Except DocumentError Json := do
  let cs :=
    match text.toList with
    | '\uFEFF' :: rest => rest
    | cs => cs
  return .object (itemsToJson (← lines (cs.length + 1) [] [] cs))

end LoginRisk.Toml
