import TermBridge.Toml.Lexeme

namespace TermBridge.Toml

mutual

-- A value in which arrays and inline tables may be nested `depth` deep.
def value (depth : Nat) (text : List Char) : Option (Value × List Char) :=
  match text with
  | '[' :: rest =>
    match depth with
    | 0 => none
    | depth + 1 => (items depth (rest.length + 1) rest).map fun r => (.array r.1, r.2)
  | '{' :: rest =>
    match depth with
    | 0 => none
    | depth + 1 => do
      let (entries, rest) ← match skipSpace rest with
        | '}' :: rest => some ([], rest)
        | _ => pairs depth (rest.length + 1) rest
      let table ← Value.ofInline entries
      return (table, rest)
  | 't' :: 'r' :: 'u' :: 'e' :: rest => some (.boolean true, rest)
  | 'f' :: 'a' :: 'l' :: 's' :: 'e' :: rest => some (.boolean false, rest)
  | '"' :: _ => (string text).map fun r => (.string r.1, r.2)
  | '\'' :: _ => (string text).map fun r => (.string r.1, r.2)
  | _ => dateOrNumber text
termination_by (depth, 0, 0)

-- The items of an array and its closing bracket. A comma may follow the last item. Every round
-- takes at least one character, which bounds their number.
def items (depth fuel : Nat) (text : List Char) : Option (List Value × List Char) :=
  match fuel with
  | 0 => none
  | fuel + 1 =>
    match skipBlank text with
    | ']' :: rest => some ([], rest)
    | text => do
      let (v, rest) ← value depth text
      match skipBlank rest with
      | ',' :: rest =>
        let (vs, rest) ← items depth fuel rest
        return (v :: vs, rest)
      | ']' :: rest => return ([v], rest)
      | _ => none
termination_by (depth, 1, fuel)

-- The keys and values of an inline table that is not empty, and its closing brace.
def pairs (depth fuel : Nat) (text : List Char) :
    Option (List (List String × String × Value) × List Char) :=
  match fuel with
  | 0 => none
  | fuel + 1 => do
    let ((path, last), rest) ← key text
    let rest ← expect '=' rest
    let (v, rest) ← value depth (skipSpace rest)
    match skipSpace rest with
    | ',' :: rest =>
      let (more, rest) ← pairs depth fuel rest
      return ((path, last, v) :: more, rest)
    | '}' :: rest => return ([(path, last, v)], rest)
    | _ => none
termination_by (depth, 1, fuel)

end

def statement (text : List Char) : Option (Statement × List Char) :=
  match text with
  | '[' :: '[' :: rest => do
    let ((path, last), rest) ← key rest
    let rest ← expect ']' rest
    let rest ← expect ']' rest
    let rest ← lineEnd? rest
    return (.element path last, rest)
  | '[' :: rest => do
    let ((path, last), rest) ← key rest
    let rest ← expect ']' rest
    let rest ← lineEnd? rest
    return (.table path last, rest)
  | _ => do
    let ((path, last), rest) ← key text
    let rest ← expect '=' rest
    let (v, rest) ← value (depthLimit - 1) (skipSpace rest)
    let rest ← lineEnd? rest
    return (.assign path last v, rest)

-- The fuel is the length of the text; every round takes at least one character.
def statements : Nat → List Char → Option (List Statement)
  | 0, _ => none
  | fuel + 1, text =>
    match skipSpace text with
    | [] => some []
    | c :: rest =>
      match newline? (skipComment (c :: rest)) with
      | some rest => statements fuel rest
      | none =>
        if c = '#' then if (skipComment (c :: rest)).isEmpty then some [] else none
        else do
          let (first, rest) ← statement (c :: rest)
          let others ← statements fuel rest
          return first :: others

def byteOrderMark : Char := '\uFEFF'

def skipByteOrderMark : List Char → List Char
  | [] => []
  | c :: rest => if c = byteOrderMark then rest else c :: rest

-- The table of a document, or nothing where the document is malformed.
def parse? (text : String) : Option Entries := do
  let text := skipByteOrderMark text.toList
  let ss ← statements (text.length + 1) text
  Entries.ofStatements ss

end TermBridge.Toml
