namespace TermBridge.Shell

-- What is done with a parameter besides giving its value.
inductive Operator where
  | value
  | length
  | default
  | alternative
  | complain
  | assign
  | cutEnd (longest : Bool)
  | cutFront (longest : Bool)
  -- There is no such operator.
  | unknown
  deriving DecidableEq, Repr

-- A parameter with its operator, where an empty value can count as none.
structure Parameter where
  name : String
  operator : Operator
  emptyIsUnset : Bool := false
  deriving DecidableEq, Repr

-- Which way a redirection goes. Text that stands in the script itself is known by number.
inductive Direction where
  | from_
  | both
  | to
  | clobber
  | append
  | duplicateInput
  | duplicateOutput
  | here (number : Nat)
  deriving DecidableEq, Repr

mutual

-- The operand of a parameter stands behind it, up to its end, and so does an arithmetic expression.
inductive Item where
  | char (c : Char)
  | escaped (c : Char)
  -- Quotes begin or end.
  | quote
  | parameter (p : Parameter)
  | endParameter
  | arithmetic
  | endArithmetic
  | command (c : Option Command)

inductive Redirection where
  | mk (descriptor : Nat) (direction : Direction) (target : List Item)

-- Commands that complaints can refer to know their line.
inductive Command where
  | simple (line : Nat) (assignments words : List (List Item)) (redirections : List Redirection)
  | pipeline (background : Bool) (commands : List Command)
  | redirected (line : Nat) (body : Command) (redirections : List Redirection)
  | background (line : Nat) (body : Command) (redirections : List Redirection)
  | subshell (line : Nat) (body : Option Command) (redirections : List Redirection)
  | both (first second : Command)
  | either (first second : Command)
  | sequence (first second : Command)
  | negated (body : Command)
  | branch (test yes no : Option Command)
  | repeated (expected : Bool) (test body : Option Command)
  | forEach (line : Nat) (name : String) (words : List (List Item)) (body : Option Command)
  | choose (line : Nat) (word : List Item) (cases : List (List (List Item) × Option Command))
  | function (line : Nat) (name : String) (body : Command)

end

instance : Inhabited Item := ⟨.quote⟩

instance : Inhabited Command := ⟨.pipeline false []⟩

abbrev Word := List Item

namespace Redirection

def descriptor : Redirection → Nat
  | .mk n _ _ => n

def direction : Redirection → Direction
  | .mk _ d _ => d

def target : Redirection → Word
  | .mk _ _ w => w

end Redirection

namespace Word

-- The text of a word without its quotes.
def text (w : Word) : String :=
  String.ofList (w.filterMap fun
    | .char c | .escaped c => some c
    | _ => none)

def ofText (text : String) : Word :=
  text.toList.map Item.char

-- The word of a text without anything special in it, if it is one.
def plain? (w : Word) : Option String :=
  (w.mapM fun
    | Item.char c => some c
    | _ => none).map String.ofList

def isNameStart (c : Char) : Bool :=
  c.isAlpha || c == '_'

def isNameChar (c : Char) : Bool :=
  c.isAlphanum || c == '_'

def isName (text : String) : Bool :=
  match text.toList with
  | c :: rest => isNameStart c && rest.all isNameChar
  | [] => false

-- What stands in front of an equals sign, if that is a name.
def assigned? (w : Word) : Option String :=
  let front := w.takeWhile fun
    | .char c => isNameChar c
    | _ => false
  match w.drop front.length with
  | .char '=' :: _ => some (Word.text front) |>.filter isName
  | _ => none

def allParameters : Word :=
  [.quote, .parameter { name := "@", operator := .value }, .quote]

end Word

end TermBridge.Shell
