import TermBridge.CommandLine.Split

namespace TermBridge.CommandLine

-- Whether the splitter comes to the end of the text inside quotes. It reads as `word` does, and goes on
-- behind a blank that ends an argument: every argument begins outside quotes.
def endsQuoted (inQuotes : Bool) (text : List Char) : Bool :=
  match _h : run text with
  | (_, []) => inQuotes
  | (n, c :: rest) =>
    if c = '"' then
      if n % 2 = 1 then endsQuoted inQuotes rest
      else if inQuotes && rest.head? == some '"' then endsQuoted true rest.tail
      else endsQuoted (!inQuotes) rest
    else endsQuoted inQuotes rest
termination_by text.length
decreasing_by
  all_goals
    have hl := length_lt_of_run _h
    have ht : rest.tail.length ≤ rest.length := by simp
    omega

-- The characters that have a meaning for the splitter besides blanks.
def isMark (c : Char) : Bool :=
  c == '"' || c == '\\'

def isPlain (c : Char) : Bool :=
  !isMark c && !isBlank c

def withoutMarks (chars : List Char) : List Char :=
  chars.filter fun c => !isMark c

-- What a text that stands behind `before` says. A blank counts where it stands inside quotes.
def contents (before : List Char) : List Char → List Char
  | [] => []
  | c :: rest =>
    if isMark c || (isBlank c && !endsQuoted false before) then contents (before ++ [c]) rest
    else c :: contents (before ++ [c]) rest

end TermBridge.CommandLine
