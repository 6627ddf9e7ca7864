import SqlClient.Sql.Lexeme
import SqlClient.Text.Blank

/-!
# Placeholders

A placeholder is a sigil in code position with digits after it. Changing the style changes the sigil
and nothing else. An identifier such as `$1` names the parameter with the index before its number.
-/

namespace SqlClient.Sql

/-- The way an engine writes placeholders. -/
inductive PlaceholderStyle where
  | dollar
  | question
  deriving DecidableEq, Repr

namespace PlaceholderStyle

/-- The character before the number. -/
def sigil : PlaceholderStyle → Char
  | .dollar => '$'
  | .question => '?'

/-- The style whose placeholders are restyled into this one. -/
def other : PlaceholderStyle → PlaceholderStyle
  | .dollar => .question
  | .question => .dollar

end PlaceholderStyle

/-- Whether the lexeme is a digit in code position. -/
def Lexeme.isCodeDigit (l : Lexeme) : Bool :=
  l.kind == .code && l.chars.all Char.isDigit

/-- Every sigil of the other style that stands in code position before a digit becomes the sigil of
`target`. -/
def restyle (target : PlaceholderStyle) : List Lexeme → List Lexeme
  | l :: digit :: ls =>
    (if l.isCodeChar target.other.sigil && digit.isCodeDigit then ⟨.code, [target.sigil]⟩ else l) ::
      restyle target (digit :: ls)
  | ls => ls

/-- What restyling the placeholders of a text gives. -/
inductive Restyled where
  /-- There was no placeholder of the other style. -/
  | unchanged
  | restyled (sql : String)
  deriving DecidableEq, Repr

/-- The text with its placeholders in the style `target`. -/
def restylePlaceholders (target : PlaceholderStyle) (sql : String) : Restyled :=
  let before := lexemes sql.toList
  let after := restyle target before
  if after = before then .unchanged else .restyled (String.ofList (spell after))

/-- The greatest parameter number. -/
def maxParameterNumber : Nat := 18446744073709551615

/-- The digits of a text of the form `^[$?](\d+)$`, with `\d` for the characters that `isNumeral`
holds of. -/
def identifierDigits? (isNumeral : Char → Bool) : List Char → Option (List Char)
  | sigil :: digits =>
    if (sigil == '$' || sigil == '?') && !digits.isEmpty && digits.all isNumeral then some digits
    else none
  | [] => none

/-- The number `n` with one more decimal digit, unless it becomes too great. -/
def appendDigit? (n : Nat) (digit : Char) : Option Nat :=
  if digit.isDigit then
    let more := 10 * n + (digit.toNat - '0'.toNat)
    if more ≤ maxParameterNumber then some more else none
  else none

/-- The number that decimal digits spell, up to `maxParameterNumber`. -/
def parameterNumber? (digits : List Char) : Option Nat :=
  digits.foldlM appendDigit? 0

/-- The index that an identifier names, blanks around it ignored: the one before its number. The
form of an identifier may admit more numerals than a number can be read from. -/
def parameterIndexBy? (isNumeral : Char → Bool) (identifier : String) : Option Nat := do
  let digits ← identifierDigits? isNumeral (Text.trimChars identifier.toList)
  match ← parameterNumber? digits with
  | 0 => none
  | index + 1 => some index

/-- The index that an identifier with decimal digits names. -/
def parameterIndex? (identifier : String) : Option Nat :=
  parameterIndexBy? Char.isDigit identifier

end SqlClient.Sql
