namespace TermBridge.Shell.Quote

-- Single quotes cannot stand within single quotes, so these are put between double quotes. The fuel is
-- the length of the text.
def encodeFrom : Nat → List Char → List Char
  | 0, _ => []
  | fuel + 1, text =>
    let front := text.takeWhile (· != '\'')
    let rest := text.dropWhile (· != '\'')
    let quotes := rest.takeWhile (· == '\'')
    let rest := rest.dropWhile (· == '\'')
    let shown := '\'' :: front ++ ['\'']
    let shown := if quotes.isEmpty then shown else shown ++ '"' :: quotes ++ ['"']
    if rest.isEmpty then shown else shown ++ encodeFrom fuel rest

def encode (text : String) : String :=
  String.ofList (encodeFrom (text.length + 1) text.toList)

end TermBridge.Shell.Quote
