import SqlClient.Text.Utf8

/-!
# Lexemes of SQL text

Everything the library has to know about SQL text is which of its characters are code. A text is
cut from left to right into string literals, quoted identifiers, comments, dollar blocks and, where
none of these starts, single code characters. No character is lost, so the lexemes of a text written
one after the other are the text.
-/

namespace SqlClient.Sql

/-- What a lexeme is. -/
inductive LexemeKind where
  /-- One character of plain SQL. -/
  | code
  /-- A string literal in single quotes. -/
  | literal
  /-- An identifier in double quotes. -/
  | identifier
  /-- From two dashes to the end of the line. -/
  | lineComment
  /-- From a slash and a star to the star and slash that close it; comments nest. -/
  | blockComment
  /-- From a tag between dollar signs to the same tag again. -/
  | dollarBlock
  deriving DecidableEq, Repr

/-- A piece of SQL text together with what it is. -/
structure Lexeme where
  kind : LexemeKind
  chars : List Char
  deriving DecidableEq, Repr

namespace Lexeme

/-- Whether the lexeme is the code character `c`. -/
def isCodeChar (l : Lexeme) (c : Char) : Bool :=
  l.kind == .code && l.chars == [c]

/-- The length in bytes. -/
def byteSize (l : Lexeme) : Nat := Text.byteSize l.chars

end Lexeme

/-! ### Where a lexeme ends

Each function counts the characters that still belong to a lexeme whose opening has been read. A
lexeme without a closing extends to the end of the text. -/

/-- Up to and including the quote that closes; a doubled quote stands for itself. -/
def quotedExtent (quote : Char) : List Char → Nat
  | [] => 0
  | [_] => 1
  | c :: d :: rest =>
    if c = quote then
      if d = quote then quotedExtent quote rest + 2 else 1
    else quotedExtent quote (d :: rest) + 1

/-- Up to and including the line feed. -/
def lineExtent : List Char → Nat
  | [] => 0
  | c :: rest => if c = '\n' then 1 else lineExtent rest + 1

/-- Up to and including the star and slash that close, with `inner` further comments open. -/
def blockExtent (inner : Nat) : List Char → Nat
  | [] => 0
  | [_] => 1
  | c :: d :: rest =>
    if c = '/' ∧ d = '*' then blockExtent (inner + 1) rest + 2
    else if c = '*' ∧ d = '/' then
      match inner with
      | 0 => 2
      | outer + 1 => blockExtent outer rest + 2
    else blockExtent inner (d :: rest) + 1

/-- A character that a dollar tag may hold. -/
def isTagChar (c : Char) : Bool :=
  c.isAlphanum || c == '_'

/-- The tag of the dollar block that opens before `cs`: letters, digits and underscores up to the
next dollar sign, not starting with a digit. -/
def dollarTag (cs : List Char) : Option (List Char) :=
  let tag := cs.takeWhile isTagChar
  match cs.drop tag.length with
  | '$' :: _ => if tag.head?.any Char.isDigit then none else some tag
  | _ => none

/-- Up to and including the leftmost `close`. -/
def dollarExtent (close : List Char) : List Char → Nat
  | [] => 0
  | c :: rest => if close.isPrefixOf (c :: rest) then close.length else dollarExtent close rest + 1

/-- The kind of the lexeme that starts with `c`, and how many characters of `rest` belong to it. -/
def opening (c : Char) (rest : List Char) : LexemeKind × Nat :=
  match c, rest with
  | '\'', _ => (.literal, quotedExtent '\'' rest)
  | '"', _ => (.identifier, quotedExtent '"' rest)
  | '-', '-' :: more => (.lineComment, lineExtent more + 1)
  | '/', '*' :: more => (.blockComment, blockExtent 0 more + 1)
  | '$', _ =>
    match dollarTag rest with
    | some tag =>
      (.dollarBlock,
        tag.length + 1 + dollarExtent ('$' :: tag ++ ['$']) (rest.drop (tag.length + 1)))
    | none => (.code, 0)
  | _, _ => (.code, 0)

/-- The lexemes of a text, from left to right. -/
def lexemes : List Char → List Lexeme
  | [] => []
  | c :: rest =>
    ⟨(opening c rest).1, c :: rest.take (opening c rest).2⟩ :: lexemes (rest.drop (opening c rest).2)
termination_by cs => cs.length
decreasing_by simp only [List.length_drop, List.length_cons]; omega

/-- The text that lexemes spell. -/
def spell (ls : List Lexeme) : List Char :=
  ls.flatMap (·.chars)

/-- The byte offsets of the code characters, each byte of a character counted, when the first
lexeme starts at byte `start`. -/
def codeOffsetsFrom (start : Nat) : List Lexeme → List Nat
  | [] => []
  | l :: ls =>
    (if l.kind = .code then List.range' start l.byteSize else []) ++
      codeOffsetsFrom (start + l.byteSize) ls

/-- The byte offsets of a text that are plain SQL, neither quoted nor commented. -/
def codeOffsets (sql : String) : List Nat :=
  codeOffsetsFrom 0 (lexemes sql.toList)

@[simp] theorem spell_nil : spell [] = [] := rfl

@[simp] theorem spell_cons (l : Lexeme) (ls : List Lexeme) :
    spell (l :: ls) = l.chars ++ spell ls := rfl

@[simp] theorem spell_append (ls ms : List Lexeme) : spell (ls ++ ms) = spell ls ++ spell ms :=
  List.flatMap_append

/-- The lexemes of a text spell the text: nothing is lost. -/
@[simp] theorem spell_lexemes (cs : List Char) : spell (lexemes cs) = cs := by
  fun_induction lexemes cs with
  | case1 => rfl
  | case2 c rest ih => simp [ih]

end SqlClient.Sql
