import SqlClient.Sql.Lexeme
import SqlClient.Text.Blank

/-!
# Statements of a script

A script is cut at the semicolons that are code. The pieces keep their quotes and comments; blank
pieces are no statements.
-/

namespace SqlClient.Sql

/-- The runs of lexemes between code semicolons. There is one more run than semicolons. -/
def pieces : List Lexeme → List (List Lexeme)
  | [] => [[]]
  | l :: ls =>
    if l.isCodeChar ';' then [] :: pieces ls
    else
      match pieces ls with
      | [] => [[l]]
      | p :: ps => (l :: p) :: ps

/-- The statements of a script: its pieces trimmed, without the blank ones, in order. -/
def statements (sql : String) : List String :=
  let trimmed := (pieces (lexemes sql.toList)).map fun p => Text.trimChars (spell p)
  (trimmed.filter (!·.isEmpty)).map String.ofList

theorem pieces_ne_nil (ls : List Lexeme) : pieces ls ≠ [] := by
  cases ls with
  | nil => simp [pieces]
  | cons l ls =>
    rw [pieces]
    split
    · simp
    · split <;> simp

end SqlClient.Sql
