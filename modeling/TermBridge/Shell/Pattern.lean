namespace TermBridge.Shell.Pattern

def isPunctuation (c : Char) : Bool :=
  33 ≤ c.toNat && c.toNat ≤ 126 && !c.isAlphanum

def isSpace (c : Char) : Bool :=
  c == ' ' || (9 ≤ c.toNat && c.toNat ≤ 13)

def classes : List (String × (Char → Bool)) := [
  ("alnum", Char.isAlphanum),
  ("alpha", Char.isAlpha),
  ("blank", fun c => c == ' ' || c == '\t'),
  ("cntrl", fun c => c.toNat < 32 || c.toNat == 127),
  ("digit", Char.isDigit),
  ("graph", fun c => 33 ≤ c.toNat && c.toNat ≤ 126),
  ("lower", Char.isLower),
  ("print", fun c => 32 ≤ c.toNat && c.toNat ≤ 126),
  ("punct", isPunctuation),
  ("space", isSpace),
  ("upper", Char.isUpper),
  ("xdigit", fun c => c.isDigit || ('a' ≤ c && c ≤ 'f') || ('A' ≤ c && c ≤ 'F'))]

-- The class of characters that a part of a set begins with, behind its first bracket.
def class? (pattern : List Char) : Option ((Char → Bool) × List Char) :=
  classes.findSome? fun entry =>
    let front := (":" ++ entry.1 ++ ":]").toList
    if front.isPrefixOf pattern then some (entry.2, pattern.drop front.length) else none

-- The order of characters in ranges.
def rank (c : Char) : Int :=
  if c.toNat < 128 then c.toNat else (c.toNat : Int) - 256

-- The last character of a range, behind its dash.
def rangeEnd? (pattern : List Char) : Option (Char × List Char) :=
  match pattern with
  | '-' :: '\\' :: last :: rest => some (last, rest)
  | '-' :: ']' :: _ => none
  | '-' :: last :: rest => some (last, rest)
  | _ => none

-- Whether a character belongs to a set whose first element is the pattern's first character, and what
-- follows the set. The fuel is the length of the pattern.
def inSet (c : Char) : Nat → Bool → List Char → Option (Bool × List Char)
  | 0, _, _ => none
  | _ + 1, _, [] => none
  | fuel + 1, found, '[' :: rest =>
    match class? rest with
    | some (belongs, rest) => more fuel (found || belongs c) rest
    | none => element fuel found '[' rest
  | fuel + 1, found, '\\' :: first :: rest => element fuel found first rest
  | fuel + 1, found, first :: rest => element fuel found first rest
where
  element (fuel : Nat) (found : Bool) (first : Char) (rest : List Char) : Option (Bool × List Char) :=
    match rangeEnd? rest with
    | some (last, rest) =>
      more fuel (found || (rank first ≤ rank c && rank c ≤ rank last)) rest
    | none => more fuel (found || c == first) rest
  more (fuel : Nat) (found : Bool) (rest : List Char) : Option (Bool × List Char) :=
    match rest with
    | ']' :: rest => some (found, rest)
    | rest => inSet c fuel found rest

-- Whether a character belongs to the set behind an opening bracket, and what follows the set, if there
-- is one.
def set? (c : Char) (pattern : List Char) : Option (Bool × List Char) :=
  match pattern with
  | '!' :: rest => (inSet c (rest.length + 1) false rest).map fun r => (!r.1, r.2)
  | rest => inSet c (rest.length + 1) false rest

-- Whether a text matches a pattern. The fuel is the length of both. A bracket that opens no set stands
-- for itself, but for no more than some character.
def matchFrom : Nat → List Char → List Char → Bool
  | 0, _, _ => false
  | _ + 1, [], text => text.isEmpty
  | fuel + 1, '?' :: pattern, _ :: text => matchFrom fuel pattern text
  | _ + 1, '?' :: _, [] => false
  | fuel + 1, '*' :: pattern, text =>
    matchFrom fuel pattern text ||
      (match text with
      | _ :: rest => matchFrom fuel ('*' :: pattern) rest
      | [] => false)
  | _ + 1, '[' :: _, [] => false
  | fuel + 1, '[' :: pattern, c :: text =>
    match set? c pattern with
    | some (found, rest) => found && matchFrom fuel rest text
    | none => c == '[' && matchFrom fuel pattern text
  | fuel + 1, '\\' :: p :: pattern, text => same fuel p pattern text
  | fuel + 1, p :: pattern, text => same fuel p pattern text
where
  same (fuel : Nat) (p : Char) (pattern text : List Char) : Bool :=
    match text with
    | c :: rest => c == p && matchFrom fuel pattern rest
    | [] => false

def isMatch (pattern text : List Char) : Bool :=
  matchFrom (pattern.length + text.length + 1) pattern text

-- Whether a pattern is more than a text.
def isSpecial : List Char → Bool
  | [] => false
  | '\\' :: _ :: rest => isSpecial rest
  | c :: rest => c == '*' || c == '?' || c == '[' || isSpecial rest

-- The text of a pattern that is not more than that.
def unescape : List Char → List Char
  | '\\' :: c :: rest => c :: unescape rest
  | c :: rest => c :: unescape rest
  | [] => []

end TermBridge.Shell.Pattern
