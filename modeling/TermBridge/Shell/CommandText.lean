import TermBridge.Shell.Syntax

namespace TermBridge.Shell

-- A word as it is being written.
structure WordWriter where
  -- Newest first.
  text : List Char := []
  -- Whether quotes are open, for each operand that is open.
  quotes : List Bool := [false]
  -- The last parameter, as long as its operand is not at its end.
  parameter : Option Parameter := none

namespace WordWriter

def put (w : WordWriter) (text : String) : WordWriter :=
  { w with text := text.toList.reverse ++ w.text }

def isOpen (w : WordWriter) : Bool :=
  w.quotes.headD false

def operatorText (p : Parameter) : String :=
  (if p.emptyIsUnset then ":" else "") ++
    match p.operator with
    | .value => "\x7d"
    | .length | .unknown => ""
    | .default => "-"
    | .alternative => "+"
    | .complain => "?"
    | .assign => "="
    | .cutEnd longest => if longest then "%%" else "%"
    | .cutFront longest => if longest then "##" else "#"

-- What stands between a parameter and its operand.
def operator (w : WordWriter) (p : Parameter) : WordWriter :=
  let w := if p.operator = .value then w else { w with quotes := false :: w.quotes }
  w.put (operatorText p)

def char (w : WordWriter) (c : Char) : WordWriter :=
  match w.parameter with
  | some p => if c = '=' then w.operator p else w.put (shown c)
  | none => w.put (shown c)
where
  shown (c : Char) : String :=
    if "'\\\"$".toList.contains c then String.ofList ['\\', c] else String.ofList [c]

def item (w : WordWriter) : Item → WordWriter
  | .char c => w.char c
  | .escaped c => w.put (String.ofList [c])
  | .quote => { w with quotes := (!w.isOpen) :: w.quotes.drop 1 }.put "\""
  | .parameter p =>
    let w := w.put (if p.operator = .length then "$\x7b#" else "$\x7b")
    { w.put p.name with parameter := some p }.operator p
  | .endParameter =>
    { w.put (if w.isOpen then "\"\x7d" else "\x7d") with
      quotes := w.quotes.drop 1
      parameter := none }
  | .arithmetic => w.put "$(("
  | .endArithmetic => w.put "))"
  | .command _ => w.put "$(...)"

end WordWriter

namespace CommandText

def word (w : Word) : String :=
  let w := w.foldl WordWriter.item {}
  String.ofList (if w.isOpen then w.put "\"" else w).text.reverse

def words (ws : List Word) : String :=
  " ".intercalate (ws.map word)

def sign : Direction → String
  | .from_ => "<"
  | .both => "<>"
  | .to => ">"
  | .clobber => ">|"
  | .append => ">>"
  | .duplicateInput => "<&"
  | .duplicateOutput => ">&"
  | .here _ => "<<..."

-- A descriptor is shown as one character.
def descriptor (n : Nat) : String :=
  String.ofList [Char.ofNat ('0'.toNat + n)]

def source (w : Word) : String :=
  match Word.plain? w with
  | some text => if text = "-" then "/" else text
  | none => "/"

def redirection (r : Redirection) : String :=
  let front := " " ++ descriptor r.descriptor ++ sign r.direction
  match r.direction with
  | .here _ => " " ++ sign r.direction
  | .duplicateInput | .duplicateOutput => front ++ source r.target
  | _ => front ++ word r.target

mutual

def ofCommand : Command → String
  | .simple _ _ ws rs => words ws ++ String.join (rs.map redirection)
  | .pipeline _ cs => " | ".intercalate (ofList cs)
  | .redirected _ body _ | .background _ body _ => ofCommand body
  | .subshell _ body _ => "(" ++ ofOption body ++ ")"
  | .both first second => ofCommand first ++ " && " ++ ofCommand second
  | .either first second => ofCommand first ++ " || " ++ ofCommand second
  | .sequence first second => ofCommand first ++ "; " ++ ofCommand second
  | .negated body => "!" ++ ofCommand body
  | .branch test yes no =>
    "if " ++ ofOption test ++ "; then " ++ ofOption yes ++
      (match no with
        | some no => "; else " ++ ofCommand no
        | none => "") ++ "; fi"
  | .repeated expected test body =>
    (if expected then "while " else "until ") ++ ofOption test ++ "; do " ++ ofOption body ++ "; done"
  | .forEach _ name ws body =>
    "for " ++ name ++ " in " ++ words ws ++ "; do " ++ ofOption body ++ "; done"
  | .choose _ w cs => "case " ++ word w ++ " in " ++ ofCases cs ++ "esac"
  | .function _ name _ => name ++ "() \x7b ... \x7d"

def ofOption : Option Command → String
  | none => ""
  | some c => ofCommand c

def ofList : List Command → List String
  | [] => []
  | c :: cs => ofCommand c :: ofList cs

-- Of the patterns in front of a command only the first one is shown.
def ofCases : List (List Word × Option Command) → String
  | [] => ""
  | (ps, body) :: rest => words (ps.take 1) ++ ") " ++ ofOption body ++ ";; " ++ ofCases rest

end

end CommandText

def Command.text (c : Command) : String :=
  CommandText.ofCommand c

end TermBridge.Shell
