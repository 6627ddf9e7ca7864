import SqlClient.HostType
import SqlClient.TypeTag

/-!
# Errors

An engine reports failures by an SQLSTATE, a vendor code and a message. The client's own errors are
causes; `Error.message` is the one place where they get their wording.
-/

namespace SqlClient

/-- A failure as an engine reports it. -/
structure EngineError where
  sqlState : String
  code : Int32
  message : String
  deriving DecidableEq

namespace EngineError

/-- The message with code and SQLSTATE in brackets. -/
def display (e : EngineError) : String :=
  e.message ++ " [" ++ toString e.code.toInt ++ "-" ++ e.sqlState ++ "]"

/-- A statement the engine cannot parse. -/
def syntaxError (message : String) : EngineError := ⟨"42000", 42000, message⟩

/-- A violated constraint. -/
def constraint (message : String) : EngineError := ⟨"23000", 23000, message⟩

/-- A value that cannot be turned into another type. -/
def dataConversion (message : String) : EngineError := ⟨"22018", 22018, message⟩

/-- A number outside the range of its target, given by its text. -/
def numericOutOfRange (number : String) : EngineError :=
  ⟨"22003", 22003, "Numeric value out of range: \"" ++ number ++ "\""⟩

/-- Something the engine does not offer. -/
def featureNotSupported (message : String) : EngineError := ⟨"0A000", 50100, message⟩

/-- A connection that is gone. -/
def connection (message : String) : EngineError := ⟨"08000", 90067, message⟩

/-- Any other failure. -/
def general (message : String) : EngineError := ⟨"HY000", 50000, message⟩

/-- No conversion leads from values tagged `tag` to the type named `target`. -/
def noConversion (tag : TypeTag) (target : String) : EngineError :=
  dataConversion ("Data conversion error converting " ++ tag.display ++ " to " ++ target)

end EngineError

/-- What an engine failure means to the client. -/
inductive FailureKind where
  | badGrammar
  | dataIntegrityViolation
  | nonTransientResource
  | transientResource
  | timeout
  | permissionDenied
  | rollback
  | nonTransient
  deriving DecidableEq, Repr

/-- The kind of a failure by its SQLSTATE: some states stand on their own, the others go by their
class, the first two characters. -/
def FailureKind.ofSqlState (state : String) : FailureKind :=
  if state = "42501" then .permissionDenied
  else if state = "57014" ∨ state = "HYT00" then .timeout
  else if state = "40001" ∨ state = "HYT01" then .transientResource
  else
    match state.toList.take 2 with
    | ['4', '2'] => .badGrammar
    | ['2', '2'] | ['2', '3'] => .dataIntegrityViolation
    | ['0', '8'] => .nonTransientResource
    | ['2', '8'] => .permissionDenied
    | ['4', '0'] => .rollback
    | _ => .nonTransient

/-- What can go wrong, by cause. -/
inductive Error where
  /-- The text does not name a parameter. -/
  | badIdentifier (identifier : String)
  /-- The statement text is blank. -/
  | blankSql
  /-- A timestamp without zone has to be placed on the time line, and the session has no zone. -/
  | noTimeZone
  /-- There is no column with this index. -/
  | noColumn (index count : Nat)
  /-- There is no column with this upper-cased name. -/
  | noColumnNamed (key : String) (names : List String)
  /-- The document does not describe connection options. -/
  | badOptions (fault : String)
  /-- A parameter group was closed before anything was bound in it. -/
  | nothingBound
  /-- A parameter group was opened and left empty. -/
  | unfinishedGroup
  /-- The parameter with this one-based number was skipped. -/
  | parameterNotSet (number : Nat)
  /-- The cursor has been closed. -/
  | cursorClosed (id : Nat)
  /-- A mapper gave no stream for a segment. -/
  | noMappedStream
  /-- No codec reads values of this type as the wanted one. -/
  | cannotDecode (tag : TypeTag) (target : HostType)
  /-- No codec writes values of this type. -/
  | cannotEncode (type : HostType)
  /-- No codec writes nulls of this type. -/
  | cannotEncodeNull (type : HostType)
  /-- The named codec was given a value of a foreign type. -/
  | foreignValue (codec : String) (type : HostType)
  /-- A decoded value was asked for as another type. -/
  | cannotConvert (type wanted : HostType)
  /-- Parameters are written and never read. -/
  | parameterUnreadable (tag : TypeTag)
  /-- The engine failed. -/
  | engine (failure : EngineError)
  deriving DecidableEq

/-- Who is to blame for an error. -/
inductive ErrorKind where
  | invalidArgument
  | invalidState
  | unsupportedType
  | engineFailure
  deriving DecidableEq, Repr

namespace Error

/-- What sort of failure an error is. -/
def kind : Error → ErrorKind
  | .badIdentifier _ | .blankSql | .noTimeZone | .noColumn _ _ | .noColumnNamed _ _
  | .badOptions _ => .invalidArgument
  | .nothingBound | .unfinishedGroup | .parameterNotSet _ | .cursorClosed _
  | .noMappedStream => .invalidState
  | .cannotDecode _ _ | .cannotEncode _ | .cannotEncodeNull _ | .foreignValue _ _
  | .cannotConvert _ _ | .parameterUnreadable _ => .unsupportedType
  | .engine _ => .engineFailure

/-- The kind of engine failure, for errors that are one. -/
def failureKind? : Error → Option FailureKind
  | .engine e => some (.ofSqlState e.sqlState)
  | _ => none

/-- The cause in words, without the kind in front. -/
def detail : Error → String
  | .badIdentifier identifier =>
    "Identifier '" ++ identifier ++
      "' is not a valid identifier. Should be of the pattern '^[$?](\\d+)$'."
  | .blankSql => "SQL must not be empty"
  | .noTimeZone => "The session must provide a time zone to interpret zoneless timestamps"
  | .noColumn index count =>
    "Column index " ++ toString index ++ " is larger than the number of columns " ++ toString count
  | .noColumnNamed key names =>
    "Column name '" ++ key ++ "' does not exist in column names [" ++ ", ".intercalate names ++ "]"
  | .badOptions fault => "invalid connection options: " ++ fault
  | .nothingBound => "You got an unbound binder! Bind a parameter before calling add()"
  | .unfinishedGroup => "No unfinished bindings!"
  | .parameterNotSet number => "Parameter #" ++ toString number ++ " is not set"
  | .cursorClosed id => "Cursor " ++ toString id ++ " is closed"
  | .noMappedStream => "The mapper returned no stream"
  | .cannotDecode tag target =>
    "Cannot decode value of native type " ++ tag.display ++ " into " ++ target.display
  | .cannotEncode type => "Cannot encode parameter of type " ++ type.display
  | .cannotEncodeNull type => "Cannot encode null parameter of type " ++ type.display
  | .foreignValue codec type => codec ++ " cannot encode a value of type " ++ type.display
  | .cannotConvert type wanted => "Cannot convert " ++ type.display ++ " into " ++ wanted.display
  | .parameterUnreadable tag => "parameter codec cannot decode " ++ tag.display
  | .engine e => e.display

/-- The whole message of an error. -/
def message (e : Error) : String :=
  match e.kind with
  | .invalidArgument => "Invalid argument: " ++ e.detail
  | .invalidState => "Invalid state: " ++ e.detail
  | .unsupportedType => "Unsupported type: " ++ e.detail
  | .engineFailure => e.detail

end Error

instance : Coe EngineError Error where
  coe := Error.engine

end SqlClient
