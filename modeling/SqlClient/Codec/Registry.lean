import SqlClient.Codec

/-!
# Registries

A registry is a list of codecs in order of priority: the first that claims a value converts it. The
items of arrays and the values of parameters go through the whole registry again.
-/

namespace SqlClient

/-- Codecs in order of priority. -/
structure Registry where
  codecs : List Codec
  deriving DecidableEq

namespace Registry

/-- The codecs that are always there and take no other values apart. -/
def scalarCodecs : List Codec :=
  [.decimal, .bool, .int8, .bytes, .blob, .float64, .float32, .int32, .json, .date, .dateTime, .time,
    .int64, .offsetDateTime, .offsetTime, .int16, .string, .clob, .uuid, .instant, .interval, .period,
    .duration, .enum]

/-- The codecs of values that hold others. -/
def compositeCodecs : List Codec := [.array, .parameter]

/-- The usual registry, with or without geometries. -/
def standard (geometry : Bool) : Registry :=
  ⟨scalarCodecs ++ (if geometry then [.geometry] else []) ++ compositeCodecs⟩

/-- The names of the codecs in order of priority. -/
def names (r : Registry) : List String := r.codecs.map Codec.name

/-- The registry as diagnostics show it. -/
def display (r : Registry) : String :=
  "CodecRegistry \x7b codecs: [" ++ ", ".intercalate (r.codecs.map Codec.display) ++ "] \x7d"

/-! ### Reading -/

/-- Reads a value with the first codec that reads values tagged `tag` as `target`. -/
def readWith (r : Registry) (session : SessionSettings) (tag : TypeTag) (target : HostType)
    (items : Unit → Except Error (List (Option HostValue))) (v : Value) :
    Except Error (Option HostValue) :=
  match r.codecs.find? (·.canDecode tag target) with
  | some c => (c.read session items v).map some
  | none => .error (.cannotDecode tag target)

mutual

/-- Reads a value tagged `tag` as `target`; a null is read as nothing whatever its type. -/
def decode (r : Registry) (session : SessionSettings) (tag : TypeTag) (target : HostType) :
    Value → Except Error (Option HostValue)
  | .null => .ok none
  | .array items =>
    r.readWith session tag target (fun _ => r.decodeItems session items) (.array items)
  | v => r.readWith session tag target (fun _ => .ok []) v

/-- Reads the items of an array, each by its own tag and without a preference, up to the first
error. -/
def decodeItems (r : Registry) (session : SessionSettings) :
    List Value → Except Error (List (Option HostValue))
  | [] => .ok []
  | v :: vs => do
    let h ← r.decode session v.tag .any v
    return h :: (← r.decodeItems session vs)

end

/-- Reads a value with one codec, a null like any other value. -/
def readBy (r : Registry) (c : Codec) (session : SessionSettings) (v : Value) :
    Except Error HostValue :=
  match v with
  | .array items => c.read session (fun _ => r.decodeItems session items) v
  | v => c.read session (fun _ => .ok []) v

/-- Reads a value with one codec; a null is read as nothing. -/
def decodeBy (r : Registry) (c : Codec) (session : SessionSettings) (v : Value) :
    Except Error (Option HostValue) :=
  if v.isNull then .ok none else (r.readBy c session v).map some

/-- The host type of values tagged `tag` where the client has no preference. -/
def preferredType? (r : Registry) (tag : TypeTag) : Option HostType :=
  if tag = .null then some .void else (r.codecs.find? (·.canDecode tag .any)).map Codec.type

/-! ### Writing -/

/-- Writes a null of a host type, if a codec does. -/
def encodeNull (r : Registry) (target : HostType) : Except Error Value :=
  if r.codecs.any (·.canEncodeNull target) then .ok .null else .error (.cannotEncodeNull target)

/-- Writes a value with the first codec that writes it. -/
def writeWith (r : Registry) (items : Unit → Except Error (List Value))
    (inner : Unit → Except Error Value) (v : HostValue) : Except Error Value :=
  match r.codecs.find? (·.canEncode v) with
  | some c => c.write items inner v
  | none => .error (.cannotEncode v.type)

/-- Nothing to write. -/
def noItems : Unit → Except Error (List Value) := fun _ => .ok []

/-- Nothing inside. -/
def noInner : Unit → Except Error Value := fun _ => .ok .null

mutual

/-- Writes a host value. -/
def encode (r : Registry) : HostValue → Except Error Value
  | .array items => r.writeWith (fun _ => r.encodeItems items) noInner (.array items)
  | .parameter type value =>
    r.writeWith noItems (fun _ => r.encodeParameter type value) (.parameter type value)
  | v => r.writeWith noItems noInner v

/-- Writes the items of an array, up to the first error. -/
def encodeItems (r : Registry) : List (Option HostValue) → Except Error (List Value)
  | [] => .ok []
  | item :: items => do
    let v ← r.encodeItem item
    return v :: (← r.encodeItems items)

/-- Writes an item of an array. -/
def encodeItem (r : Registry) : Option HostValue → Except Error Value
  | none => .ok .null
  | some v => r.encode v

/-- Writes the value of a parameter, or a null of its type. -/
def encodeParameter (r : Registry) (type : HostType) : Option HostValue → Except Error Value
  | none => r.encodeNull type
  | some v => r.encode v

end

/-- Writes a host value with one codec. -/
def encodeBy (r : Registry) (c : Codec) (v : HostValue) : Except Error Value :=
  match v with
  | .array items => c.write (fun _ => r.encodeItems items) noInner v
  | .parameter type value => c.write noItems (fun _ => r.encodeParameter type value) v
  | v => c.write noItems noInner v

end Registry

end SqlClient
