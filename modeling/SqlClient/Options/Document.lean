import SqlClient.Json.Printer
import SqlClient.Json.Skip
import SqlClient.Options
import SqlClient.Text.Quoted

/-!
# Connection options from a document

Options are written as an object with their names, or as a list in their order. What is left out has
its default. An object may have other members, which are skipped, but no option twice.
-/

namespace SqlClient.Options

open SqlClient.Json

/-- A number as a diagnostic shows it. -/
def describeNumber : JsonNumber → String
  | .natural n => "integer `" ++ Text.digits n.toNat ++ "`"
  | .negative n => "integer `" ++ toString n.toInt ++ "`"
  | .float x => "floating point `" ++ floatText x ++ "`"

/-- Refuses the value that comes next. A scalar is read before it is refused. -/
def refuse {α : Type} (expected : String) : Reader α
  | '[' :: rest => .error (.before (.wrongType "sequence" expected) ('[' :: rest))
  | '\x7b' :: rest => .error (.before (.wrongType "map" expected) ('\x7b' :: rest))
  | cs => do
    let (value, rest) ← readScalar cs
    let found :=
      match value with
      | .bool b => "boolean `" ++ toString b ++ "`"
      | .number n => describeNumber n
      | .string s => "string " ++ Text.quote s
      | _ => "null"
    .error (.before (.wrongType found expected) rest)

/-- Fails at the end of the text, and otherwise goes on to the next token. -/
def atToken {α : Type} (read : Reader α) : Reader α := fun cs =>
  match skipGap cs with
  | [] => .error (.atNext .endInValue [])
  | rest => read rest

/-- Reads a truth value. -/
def readBool : Reader Bool := atToken fun
  | 't' :: rest => (readWord ['r', 'u', 'e'] rest).map fun ((), rest) => (true, rest)
  | 'f' :: rest => (readWord ['a', 'l', 's', 'e'] rest).map fun ((), rest) => (false, rest)
  | cs => refuse "a boolean" cs

/-- A number of rows. -/
def readCount : Reader Nat := atToken fun cs =>
  let number? : Option (Except Failure (JsonNumber × List Char)) :=
    match cs with
    | '-' :: rest => some (readUnsigned true rest)
    | c :: _ => if c.isDigit then some (readUnsigned false cs) else none
    | [] => none
  match number? with
  | none => refuse "usize" cs
  | some result => do
    let (count, rest) ← result
    match count with
    | .natural n => .ok (n.toNat, rest)
    | .negative n => .error (.before (.wrongValue (describeNumber (.negative n)) "usize") rest)
    | .float x => .error (.before (.wrongType (describeNumber (.float x)) "usize") rest)

/-- A text or nothing. -/
def readName : Reader (Option String) := fun cs =>
  match skipGap cs with
  | 'n' :: rest => (readWord ['u', 'l', 'l'] rest).map fun ((), rest) => (none, rest)
  | _ =>
    atToken (fun
      | '"' :: rest => (readString rest).map fun (s, rest) => (some s, rest)
      | cs => refuse "a string" cs) cs

/-! ### Records

A record is read field by field into what has been read so far. -/

/-- How the fields of a record are read: in a list by their position, in an object by their name. A
field of an object that is there twice is refused. -/
structure Fields (α : Type) where
  /-- What the record is called in diagnostics. -/
  title : String
  /-- The names in the order of a list. -/
  names : List String
  /-- Reads the field of a name into a record. -/
  read : String → α → Reader α

/-- Where the text stands after the brackets of a record are looked for, an error being there
already. -/
def afterClosing (close : Char) (cs : List Char) : List Char :=
  match skipGap cs with
  | c :: rest => if c = close then rest else c :: rest
  | [] => []

/-- The bracket that closes a list of fields. -/
def readListEnd : Reader Unit := fun cs =>
  match skipGap cs with
  | ']' :: rest => .ok ((), rest)
  | ',' :: rest =>
    match skipGap rest with
    | ']' :: more => .error (.atNext .trailingComma (']' :: more))
    | more => .error (.atNext .trailingCharacters more)
  | [] => .error (.atNext .endInList [])
  | rest => .error (.atNext .trailingCharacters rest)

/-- Reads fields by position. -/
def readListed {α : Type} (fields : Fields α) : Bool → List String → α → Reader α
  | _, [], record, cs => do
    let ((), rest) ← readListEnd cs
    return (record, rest)
  | first, name :: names, record, cs =>
    match skipGap cs with
    | [] => .error (.atNext .endInList [])
    | ']' :: rest => .ok (record, rest)
    | c :: rest =>
      if first then do
        let (record, rest) ← fields.read name record (c :: rest)
        readListed fields false names record rest
      else if c = ',' then
        match skipGap rest with
        | [] => .error (.atNext .endInValue [])
        | ']' :: more => .error (.atNext .trailingComma (']' :: more))
        | more => do
          let (record, rest) ← fields.read name record more
          readListed fields false names record rest
      else .error (.atNext .expectedListCommaOrEnd (c :: rest))

/-- Reads fields by name, at most `fuel` of them; `given` are the names that have been read. -/
def readNamed {α : Type} (fields : Fields α) : Nat → List String → α → Reader α
  | 0, _, _, _ => .error (.before .endInObject [])
  | fuel + 1, given, record, cs => do
    match ← readKey? given.isEmpty cs with
    | (none, rest) => .ok (record, rest)
    | (some name, rest) =>
      if name ∈ fields.names then
        if name ∈ given then
          .error (.before (.duplicateField name) (afterClosing '\x7d' rest))
        else do
          let ((), rest) ← readColon rest
          let (record, rest) ← fields.read name record rest
          readNamed fields fuel (name :: given) record rest
      else do
        let ((), rest) ← readColon rest
        let ((), rest) ← skipValue rest
        readNamed fields fuel (name :: given) record rest

/-- Reads a record whose fields have their defaults in `record`. -/
def readRecord {α : Type} (fields : Fields α) (record : α) : Reader α := atToken fun
  | '[' :: rest => readListed fields true fields.names record rest
  | '\x7b' :: rest => readNamed fields (rest.length + 1) [] record rest
  | cs => refuse fields.title cs

/-- The options of the codecs: whether geometries are converted. -/
def codecFields : Fields Bool where
  title := "struct CodecOptions"
  names := ["geometry"]
  read _ _ := readBool

/-- The options of a connection. -/
def fields : Fields Options where
  title := "struct ConnectionOptions"
  names := ["codecs", "max_rows", "worker_name", "close_session_on_drop"]
  read name options cs :=
    if name = "codecs" then
      (readRecord codecFields Options.default.geometry cs).map fun (geometry, rest) =>
        ({ options with geometry }, rest)
    else if name = "max_rows" then
      (readCount cs).map fun (maxRows, rest) => ({ options with maxRows }, rest)
    else if name = "worker_name" then
      (readName cs).map fun (workerName, rest) => ({ options with workerName }, rest)
    else
      (readBool cs).map fun (closeSessionOnDrop, rest) => ({ options with closeSessionOnDrop }, rest)

/-- The options that a document describes. -/
def ofJson (document : String) : Except Error Options :=
  let read : Except Failure Options := do
    let (options, rest) ← readRecord fields Options.default document.toList
    readEnd rest
    return options
  read.mapError fun failure => .badOptions (failure.describe document)

end SqlClient.Options
