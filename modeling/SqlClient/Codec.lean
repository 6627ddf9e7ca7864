import SqlClient.Error
import SqlClient.HostValue
import SqlClient.Json.Parser
import SqlClient.Json.Printer
import SqlClient.Value.Accessor

/-!
# Codecs

A codec converts between one host type and the engine types it claims. Numbers and text go through the
accessors of engine values; the other codecs take their values apart themselves. Values of arrays and
parameters are converted by whoever uses the codec, so a codec never calls another one.
-/

namespace SqlClient

/-- What a session knows that conversions depend on. -/
structure SessionSettings where
  /-- The zone of timestamps without one. -/
  timeZone : Option Offset
  deriving DecidableEq

/-- The codecs. -/
inductive Codec where
  | decimal
  | bool
  | int8
  | bytes
  | blob
  | float64
  | float32
  | int32
  | json
  | date
  | dateTime
  | time
  | int64
  | offsetDateTime
  | offsetTime
  | int16
  | string
  | clob
  | uuid
  | instant
  | interval
  | period
  | duration
  | enum
  | geometry
  | array
  | parameter
  deriving DecidableEq, Repr

namespace Codec

/-- The name of a codec. -/
def name : Codec → String
  | .decimal => "decimal"
  | .bool => "bool"
  | .int8 => "i8"
  | .bytes => "bytes"
  | .blob => "blob"
  | .float64 => "f64"
  | .float32 => "f32"
  | .int32 => "i32"
  | .json => "json"
  | .date => "date"
  | .dateTime => "datetime"
  | .time => "time"
  | .int64 => "i64"
  | .offsetDateTime => "offset_datetime"
  | .offsetTime => "offset_time"
  | .int16 => "i16"
  | .string => "string"
  | .clob => "clob"
  | .uuid => "uuid"
  | .instant => "instant"
  | .interval => "interval"
  | .period => "period"
  | .duration => "duration"
  | .enum => "enum"
  | .geometry => "geometry"
  | .array => "array"
  | .parameter => "parameter"

/-- The host type a codec produces and consumes. -/
def type : Codec → HostType
  | .decimal => .decimal
  | .bool => .bool
  | .int8 => .int8
  | .bytes | .blob => .bytes
  | .float64 => .float64
  | .float32 => .float32
  | .int32 => .int32
  | .json => .json
  | .date => .date
  | .dateTime => .dateTime
  | .time => .time
  | .int64 => .int64
  | .offsetDateTime => .offsetDateTime
  | .offsetTime => .offsetTime
  | .int16 => .int16
  | .string | .clob => .string
  | .uuid => .uuid
  | .instant => .instant
  | .interval => .interval
  | .period => .period
  | .duration => .duration
  | .enum => .enum
  | .geometry => .geometry
  | .array => .array
  | .parameter => .parameter

/-- Name and host type. -/
def display (c : Codec) : String := c.name ++ "<" ++ c.type.display ++ ">"

/-- Whether a codec claims to read values of an engine type. -/
def reads : Codec → TypeTag → Bool
  | .decimal, .numeric => true
  | .bool, .boolean => true
  | .int8, .tinyInt => true
  | .bytes, .binary | .bytes, .varbinary => true
  | .blob, .blob => true
  | .float64, .double => true
  | .float32, .real => true
  | .int32, .integer => true
  | .json, .json => true
  | .date, .date => true
  | .dateTime, .timestamp => true
  | .time, .time => true
  | .int64, .bigInt => true
  | .offsetDateTime, .timestampTz | .offsetDateTime, .timestamp => true
  | .offsetTime, .timeTz => true
  | .int16, .smallInt => true
  | .string, .char | .string, .varchar => true
  | .clob, .clob => true
  | .uuid, .uuid => true
  | .instant, .timestampTz | .instant, .timestamp => true
  | .interval, .interval _ => true
  | .period, .interval qualifier => qualifier.isYearMonth
  | .duration, .interval qualifier => !qualifier.isYearMonth
  | .enum, .enum => true
  | .geometry, .geometry => true
  | .array, .array => true
  | _, _ => false

/-- Whether a codec reads values of an engine type as a host type. -/
def canDecode (c : Codec) (tag : TypeTag) (target : HostType) : Bool :=
  target.accepts c.type && c.reads tag

/-- Whether a codec writes a host value. -/
def canEncode (c : Codec) (v : HostValue) : Bool := v.type == c.type

/-- Whether a codec writes nulls of a host type. -/
def canEncodeNull (c : Codec) (target : HostType) : Bool := c.type == target

/-! ### Reading -/

/-- A value without a reading as the type named `target`. -/
def refuse {α : Type} (v : Value) (target : String) : Except Error α :=
  .error (.engine (v.noConversion target))

/-- Reads through an accessor. -/
def access {α : Type} (wrap : α → HostValue) (reading : Reading α) : Except Error HostValue :=
  match reading with
  | .ok a => .ok (wrap a)
  | .error e => .error (.engine e)

/-- The day of a value that has one. -/
def readDate (v : Value) : Except Error Date :=
  match v with
  | .date d => .ok d
  | .timestamp t => .ok t.date
  | .timestampTz t => .ok t.shown.date
  | v => refuse v "DATE"

/-- What calendar and clock show in a value that tells; a day starts at midnight. -/
def readDateTime (v : Value) : Except Error DateTime :=
  match v with
  | .timestamp t => .ok t
  | .timestampTz t => .ok t.shown
  | .date d => .ok ⟨d, .midnight⟩
  | v => refuse v "TIMESTAMP"

/-- The time of day of a value that has one. -/
def readTime (v : Value) : Except Error Time :=
  match v with
  | .time t => .ok t
  | .timeTz t => .ok t.time
  | .timestamp t => .ok t.time
  | v => refuse v "TIME"

/-- A reading of calendar and clock in a zone. -/
def attachZone (t : DateTime) (zone : Offset) : Except Error OffsetDateTime :=
  match OffsetDateTime.ofShown? t zone with
  | some t => .ok t
  | none =>
    .error (.engine (.dataConversion
      (t.text ++ " does not exist in time zone " ++ zone.text)))

/-- A point of the time line with its offset; a timestamp without one gets that of the session. -/
def readZoned (session : SessionSettings) (v : Value) : Except Error OffsetDateTime :=
  match v with
  | .timestampTz t => .ok t
  | .timestamp t =>
    match session.timeZone with
    | some zone => attachZone t zone
    | none => .error .noTimeZone
  | v => refuse v "TIMESTAMP WITH TIME ZONE"

/-- A document from the text of a value. -/
def readJson (v : Value) : Reading Json := do
  let text ← v.getString
  (Json.parse text).mapError fun fault => .dataConversion ("Invalid JSON document: " ++ fault)

/-- An identifier, from octets or from the text of a value. -/
def readUuid (v : Value) : Reading Uuid :=
  let faulty := fun (fault : UuidFault) => EngineError.dataConversion fault.message
  match v with
  | .uuid u => .ok u
  | .binary octets | .varbinary octets => (Uuid.ofBytes octets).mapError faulty
  | v => do
    let text ← v.getString
    (Uuid.parse (Text.trim text)).mapError faulty

/-- Reads a value that is not null. The items of an array come already read. -/
def read (c : Codec) (session : SessionSettings)
    (items : Unit → Except Error (List (Option HostValue))) (v : Value) : Except Error HostValue :=
  match c with
  | .decimal => access .decimal v.getDecimal
  | .bool => access .bool v.getBoolean
  | .int8 => access .int8 v.getByte
  | .int16 => access .int16 v.getShort
  | .int32 => access .int32 v.getInt
  | .int64 => access .int64 v.getLong
  | .float32 => access .float32 v.getFloat
  | .float64 => access .float64 v.getDouble
  | .string | .clob => access .string v.getString
  | .bytes | .blob => access .bytes v.getBytes
  | .json => access .json (readJson v)
  | .uuid => access .uuid (readUuid v)
  | .geometry => access .geometry v.getString
  | .date => (readDate v).map .date
  | .dateTime => (readDateTime v).map .dateTime
  | .time => (readTime v).map .time
  | .offsetDateTime => (readZoned session v).map .offsetDateTime
  | .instant => (readZoned session v).map fun t => .instant t.toInstant
  | .offsetTime =>
    match v with
    | .timeTz t => .ok (.offsetTime t)
    | v => refuse v "TIME WITH TIME ZONE"
  | .interval =>
    match v with
    | .interval i => .ok (.interval i)
    | v => refuse v "INTERVAL"
  | .period =>
    match v with
    | .interval i => access .period (Period.ofInterval i)
    | v => refuse v "INTERVAL YEAR TO MONTH"
  | .duration =>
    match v with
    | .interval i => access .duration (Duration.ofInterval i)
    | v => refuse v "INTERVAL DAY TO SECOND"
  | .enum =>
    match v with
    | .enum e => .ok (.enum e.label e.members)
    | v => refuse v "ENUM"
  | .array =>
    match v with
    | .array _ => (items ()).map .array
    | v => refuse v "ARRAY"
  | .parameter => .error (.parameterUnreadable v.tag)

/-! ### Writing -/

/-- The engine's verdict as an error of the client. -/
def engineResult {α : Type} (wrap : α → Value) (result : Except EngineError α) :
    Except Error Value :=
  match result with
  | .ok a => .ok (wrap a)
  | .error e => .error (.engine e)

/-- Writes a host value. The items of an array, and the value of a parameter, come already written. -/
def write (c : Codec) (items : Unit → Except Error (List Value)) (inner : Unit → Except Error Value)
    (v : HostValue) : Except Error Value :=
  match c, v with
  | .decimal, .decimal d => .ok (.numeric d)
  | .bool, .bool b => .ok (.boolean b)
  | .int8, .int8 n => .ok (.tinyInt n)
  | .int16, .int16 n => .ok (.smallInt n)
  | .int32, .int32 n => .ok (.integer n)
  | .int64, .int64 n => .ok (.bigInt n)
  | .float32, .float32 x => .ok (.real x)
  | .float64, .float64 x => .ok (.double x)
  | .string, .string s => .ok (.varchar s)
  | .clob, .string s => .ok (.clob s)
  | .bytes, .bytes octets => .ok (.varbinary octets)
  | .blob, .bytes octets => .ok (.blob octets)
  | .json, .json j => .ok (.json j.print)
  | .uuid, .uuid u => .ok (.uuid u)
  | .geometry, .geometry text => .ok (.geometry text)
  | .date, .date d => .ok (.date d)
  | .dateTime, .dateTime t => .ok (.timestamp t)
  | .time, .time t => .ok (.time t)
  | .offsetTime, .offsetTime t => .ok (.timeTz t)
  | .offsetDateTime, .offsetDateTime t => .ok (.timestampTz t)
  | .instant, .instant i => .ok (.timestampTz i.atUtc)
  | .interval, .interval i => .ok (.interval i)
  | .period, .period p => engineResult .interval p.toInterval
  | .duration, .duration d => engineResult .interval d.toInterval
  | .enum, .enum name members => engineResult .enum (EnumValue.resolve members name)
  | .array, .array _ => (items ()).map .array
  | .parameter, .parameter _ _ => inner ()
  | c, v => .error (.foreignValue c.name v.type)

end Codec

end SqlClient
