import TermBridge.Text.Numeral

namespace TermBridge.ShellQuoted

def isPrintable (c : Char) : Bool :=
  32 ≤ c.toNat && c.toNat < 127

def octalEscape (c : Char) : List Char :=
  '\\' :: Numeral.padLeft 3 '0' (Numeral.octal c.toNat)

-- A character that cannot be printed, behind a backslash.
def escape (c : Char) : List Char :=
  match c.toNat with
  | 7 => ['\\', 'a']
  | 8 => ['\\', 'b']
  | 9 => ['\\', 't']
  | 10 => ['\\', 'n']
  | 11 => ['\\', 'v']
  | 12 => ['\\', 'f']
  | 13 => ['\\', 'r']
  | _ => octalEscape c

-- Text between quotes in which quotes and backslashes have backslashes in front.
def encode (text : String) : String :=
  String.ofList ('\'' :: text.toList.flatMap encodeChar ++ ['\''])
where
  encodeChar (c : Char) : List Char :=
    if c = '\\' || c = '\'' then ['\\', c]
    else if isPrintable c then [c]
    else escape c

-- Characters that mean something to a shell.
def isSpecial (c : Char) : Bool :=
  " !\"$&()*;<=>?[^`|\\'".toList.contains c

-- Characters that mean something at the beginning alone.
def isSpecialFirst (c : Char) : Bool :=
  c == '#' || c == '~'

def needsQuotes (text : List Char) : Bool :=
  match text with
  | [] => true
  | ['{'] | ['}'] => true
  | c :: rest => isSpecialFirst c || (c :: rest).any fun c => isSpecial c || !isPrintable c

-- Characters that mean the same between both kinds of quotes.
def isPlain (c : Char) : Bool :=
  c.isAlphanum || "%+,-./:]_ '".toList.contains c

-- The inside of single quotes. Characters that cannot be printed stand between quotes of their own.
def inside (escaping : Bool) : List Char → List Char
  | [] => []
  | c :: rest =>
    if !isPrintable c then
      (if escaping then [] else ['\'', '$', '\'']) ++ escape c ++ inside true rest
    else if c = '\'' then ['\'', '\\', '\'', '\''] ++ inside false rest
    else (if escaping then ['\'', '\''] else []) ++ c :: inside false rest

-- Text between quotes, of the kind that needs the fewest changes.
def quoted (cs : List Char) : String :=
  if cs.contains '\'' && cs.all isPlain then String.ofList ('"' :: cs ++ ['"'])
  else String.ofList ('\'' :: inside false cs ++ ['\''])

-- A word as it is if a shell would read it as it is, and between quotes otherwise.
def word (text : String) : String :=
  if needsQuotes text.toList then quoted text.toList else text

-- A name in a message, where a colon would look like the end of the name.
def name (text : String) : String :=
  if needsQuotes text.toList || text.toList.contains ':' then quoted text.toList else text

end TermBridge.ShellQuoted
