import SqlClient.Json.Fault

/-!
# Between the tokens of a document
-/

namespace SqlClient.Json

/-- The characters that may stand between tokens. -/
def isGap (c : Char) : Bool :=
  c == ' ' || c == '\n' || c == '\t' || c == '\r'

/-- The text from its next token on. -/
def skipGap (cs : List Char) : List Char := cs.dropWhile isGap

/-- Reads the letters of a word. -/
def readWord : List Char → Reader Unit
  | [], rest => .ok ((), rest)
  | _ :: _, [] => .error (.atNext .endInValue [])
  | w :: ws, c :: rest =>
    if c = w then readWord ws rest else .error (.atNext .expectedWord (c :: rest))

/-- Nothing but blanks may follow a document. -/
def readEnd (cs : List Char) : Except Failure Unit :=
  match skipGap cs with
  | [] => .ok ()
  | c :: rest => .error (.atNext .trailingCharacters (c :: rest))

end SqlClient.Json
