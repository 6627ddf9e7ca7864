import SqlClient.Error
import SqlClient.HostValue

/-!
# Asking a host value for a type

A `Wanted` names the type a client asks for. A value of another type is refused; in an array every item
that is not null has to be of the type asked for the items.
-/

namespace SqlClient

/-- What a client asks for. -/
inductive Wanted where
  /-- The value as it is. -/
  | anything
  /-- A value of one type. -/
  | scalar (type : HostType)
  /-- An array with the items so asked for. -/
  | arrayOf (item : Wanted)
  deriving DecidableEq, Repr

namespace Wanted

/-- The type a codec is asked for on behalf of the client. -/
def type : Wanted → HostType
  | .anything => .any
  | .scalar type => type
  | .arrayOf _ => .array

end Wanted

namespace HostValue

/-- Refuses a value of another type. -/
def mismatch (v : HostValue) (wanted : HostType) : Error := .cannotConvert v.type wanted

/-- Applies `f` to what is not null, up to the first error. -/
def mapItems (f : HostValue → Except Error HostValue) :
    List (Option HostValue) → Except Error (List (Option HostValue))
  | [] => .ok []
  | none :: items => do return none :: (← mapItems f items)
  | some v :: items => do
    let w ← f v
    return some w :: (← mapItems f items)

/-- The value as the client asks for it. -/
def extract (v : HostValue) (wanted : Wanted) : Except Error HostValue :=
  match wanted with
  | .anything => .ok v
  | .scalar type => if v.type = type then .ok v else .error (v.mismatch type)
  | .arrayOf item =>
    match v with
    | .array items => (mapItems (extract · item) items).map .array
    | v => .error (v.mismatch .array)

end HostValue

end SqlClient
