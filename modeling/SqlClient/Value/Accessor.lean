import SqlClient.Number.Decimal.Binary
import SqlClient.Number.Decimal.Parser
import SqlClient.Number.FloatText
import SqlClient.Text.Utf8
import SqlClient.Value

/-!
# Reading a value as another type

Each accessor reads a value as one type. Numbers widen and narrow into each other and fail where the
result does not fit; character values are read as the text of a number; what has no such reading is a
conversion error.
-/

namespace SqlClient

/-- The result of reading a value. -/
abbrev Reading (α : Type) := Except EngineError α

namespace Value

/-- The value has no reading as the type named `target`. -/
def noConversion (v : Value) (target : String) : EngineError :=
  .noConversion v.tag target

/-- The reading that was found, or a conversion error. -/
def orNoConversion {α : Type} (v : Value) (target : String) : Option α → Reading α
  | some a => .ok a
  | none => .error (v.noConversion target)

/-- The integer part of a float, if it is a 64-bit integer. -/
def longOfFloat (x : Float) : Reading Int64 :=
  match (truncFloat? x).bind int64? with
  | some n => .ok n
  | none => .error (.numericOutOfRange (FloatText.ofFloat x))

/-- The value as a 64-bit integer; fractions are cut off. -/
def getLong (v : Value) : Reading Int64 :=
  match v with
  | .boolean b => .ok (if b then 1 else 0)
  | .tinyInt n => .ok n.toInt64
  | .smallInt n => .ok n.toInt64
  | .integer n => .ok n.toInt64
  | .bigInt n => .ok n
  | .real x => longOfFloat x.toFloat
  | .double x => longOfFloat x
  | .numeric d =>
    match int64? d.trunc with
    | some n => .ok n
    | none => .error (.numericOutOfRange d.text)
  | .char s | .varchar s | .clob s => v.orNoConversion "BIGINT" (parseInt64? (Text.trim s))
  | _ => .error (v.noConversion "BIGINT")

/-- The integer of fewer bits, if it fits. -/
def narrow {α : Type} (fit : Int → Option α) (n : Int64) : Reading α :=
  match fit n.toInt with
  | some m => .ok m
  | none => .error (.numericOutOfRange (toString n.toInt))

/-- The value as an 8-bit integer. -/
def getByte (v : Value) : Reading Int8 := v.getLong >>= narrow int8?

/-- The value as a 16-bit integer. -/
def getShort (v : Value) : Reading Int16 := v.getLong >>= narrow int16?

/-- The value as a 32-bit integer. -/
def getInt (v : Value) : Reading Int32 := v.getLong >>= narrow int32?

/-- The texts that stand for true. -/
def trueTexts : List String := ["true", "t", "yes", "y", "1"]

/-- The texts that stand for false. -/
def falseTexts : List String := ["false", "f", "no", "n", "0"]

/-- The value as a truth value: character values by their text in any case, all else as an integer that
is not zero. -/
def getBoolean (v : Value) : Reading Bool :=
  match v with
  | .boolean b => .ok b
  | .char s | .varchar s | .clob s =>
    let text := String.ofList ((Text.trimChars s.toList).map Char.toLower)
    if text ∈ trueTexts then .ok true
    else if text ∈ falseTexts then .ok false
    else .error (v.noConversion "BOOLEAN")
  | _ => v.getLong.map (· != 0)

/-- The value as a 64-bit float. -/
def getDouble (v : Value) : Reading Float :=
  match v with
  | .real x => .ok x.toFloat
  | .double x => .ok x
  | .numeric d => .ok d.toFloat
  | .char s | .varchar s | .clob s =>
    v.orNoConversion "DOUBLE PRECISION" (FloatText.parse? (Text.trim s))
  | _ => v.getLong.map Int64.toFloat

/-- The value as a 32-bit float. -/
def getFloat (v : Value) : Reading Float32 :=
  match v with
  | .real x => .ok x
  | _ => v.getDouble.map Float.toFloat32

/-- The value as a decimal. -/
def getDecimal (v : Value) : Reading Decimal :=
  match v with
  | .numeric d => .ok d
  | .real x => v.orNoConversion "NUMERIC" (Decimal.ofFloat32? x)
  | .double x => v.orNoConversion "NUMERIC" (Decimal.ofFloat? x)
  | .char s | .varchar s | .clob s => v.orNoConversion "NUMERIC" (Decimal.parse? (Text.trim s))
  | _ => v.getLong.map Decimal.ofInt64

/-- The text of a value. Nulls, octets, intervals and arrays have none. -/
def getString (v : Value) : Reading String :=
  match v with
  | .char s | .varchar s | .clob s | .json s | .geometry s => .ok s
  | .boolean b => .ok (if b then "TRUE" else "FALSE")
  | .tinyInt n => .ok (toString n.toInt)
  | .smallInt n => .ok (toString n.toInt)
  | .integer n => .ok (toString n.toInt)
  | .bigInt n => .ok (toString n.toInt)
  | .real x => .ok (FloatText.ofFloat32 x)
  | .double x => .ok (FloatText.ofFloat x)
  | .numeric d => .ok d.text
  | .date d => .ok d.text
  | .time t => .ok t.text
  | .timeTz t => .ok t.text
  | .timestamp t => .ok t.text
  | .timestampTz t => .ok t.text
  | .uuid u => .ok u.text
  | .enum e => .ok e.label
  | .null | .binary _ | .varbinary _ | .blob _ | .interval _ | .array _ =>
    .error (v.noConversion "CHARACTER VARYING")

/-- The octets of a binary value, of an identifier, or of the text of a character value. -/
def getBytes (v : Value) : Reading (List UInt8) :=
  match v with
  | .binary bytes | .varbinary bytes | .blob bytes => .ok bytes
  | .char s | .varchar s | .clob s => .ok (Text.toUtf8 s)
  | .uuid u => .ok u.bytes
  | _ => .error (v.noConversion "BINARY VARYING")

end Value

end SqlClient
