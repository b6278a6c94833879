import TermBridge.Shell.Syntax

namespace TermBridge.Shell

inductive Token where
  | endOfFile
  | newline
  | semicolon
  | ampersand
  | andAnd
  | orOr
  | pipe
  | leftParenthesis
  | rightParenthesis
  | doubleSemicolon
  | redirection
  | word
  | reserved (name : String)
  deriving DecidableEq, Repr

namespace Token

def text : Token → String
  | .endOfFile => "end of file"
  | .newline => "newline"
  | .semicolon => "\";\""
  | .ampersand => "\"&\""
  | .andAnd => "\"&&\""
  | .orOr => "\"||\""
  | .pipe => "\"|\""
  | .leftParenthesis => "\"(\""
  | .rightParenthesis => "\")\""
  | .doubleSemicolon => "\";;\""
  | .redirection => "redirection"
  | .word => "word"
  | .reserved name => "\"" ++ name ++ "\""

def openBrace : String := "\x7b"

def closeBrace : String := "\x7d"

def reservedWords : List String :=
  ["!", "case", "do", "done", "elif", "else", "esac", "fi", "for", "if", "in", "then", "until", "while",
    openBrace, closeBrace]

def endingWords : List String :=
  ["do", "done", "elif", "else", "esac", "fi", "then", closeBrace]

def endsList : Token → Bool
  | .endOfFile | .rightParenthesis | .doubleSemicolon => true
  | .reserved name => endingWords.contains name
  | _ => false

end Token

end TermBridge.Shell
