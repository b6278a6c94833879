namespace TermBridge.CommandLine

def isBlank (c : Char) : Bool :=
  c == ' ' || c == '\t'

def needsQuotes (arg : List Char) : Bool :=
  arg.isEmpty || arg.any isBlank

def backslashes (n : Nat) : List Char :=
  List.replicate n '\\'

-- Writes the rest of an argument when `pending` backslashes were read and not yet written. At the
-- end of a quoted argument the run stands before the closing quote, so it is doubled there too.
def escape (quoted : Bool) (pending : Nat) : List Char → List Char
  | [] => backslashes (if quoted then 2 * pending else pending)
  | c :: rest =>
    if c = '\\' then escape quoted (pending + 1) rest
    else if c = '"' then backslashes (2 * pending + 1) ++ c :: escape quoted 0 rest
    else backslashes pending ++ c :: escape quoted 0 rest

def encodeArg (arg : List Char) : List Char :=
  if needsQuotes arg then '"' :: (escape true 0 arg ++ ['"']) else escape false 0 arg

def encodeChars (argv : List (List Char)) : List Char :=
  List.intercalate [' '] (argv.map encodeArg)

def encode (argv : List String) : String :=
  String.ofList (encodeChars (argv.map String.toList))

end TermBridge.CommandLine
