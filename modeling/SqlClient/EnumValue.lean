import SqlClient.Error
import SqlClient.Text.Blank

/-!
# Enum values

A value of an enum type is a position in the ordered list of its members. A label is resolved by its
exact spelling first and without regard to ASCII case second.
-/

namespace SqlClient

/-- A member of an enum type, with all members of the type. -/
structure EnumValue where
  members : List String
  ordinal : Nat
  ordinal_lt : ordinal < members.length
  deriving DecidableEq

/-- Equality up to the case of ASCII letters. -/
def equalIgnoringCase (a b : String) : Bool :=
  a.toList.map Char.toLower == b.toList.map Char.toLower

namespace EnumValue

/-- The name of the member. -/
def label (e : EnumValue) : String :=
  e.members.get ⟨e.ordinal, e.ordinal_lt⟩

/-- The first member at which `test` holds. -/
def find? (members : List String) (test : String → Bool) : Option EnumValue :=
  if h : members.findIdx test < members.length then some ⟨members, members.findIdx test, h⟩ else none

/-- The member that `label` names: the first one spelled exactly so, blanks around the label ignored,
else the first one that differs in case alone. -/
def resolve (members : List String) (label : String) : Except EngineError EnumValue :=
  let wanted := Text.trim label
  match (find? members (· == wanted)).or (find? members (equalIgnoringCase · wanted)) with
  | some e => .ok e
  | none =>
    .error (.dataConversion
      ("Value '" ++ label ++ "' is not permitted, expected one of (" ++
        ", ".intercalate members ++ ")"))

end EnumValue

/-- An enum type of the client: the names of its members, and which ordinals have a value. -/
structure EnumType where
  members : List String
  admits : Nat → Bool

namespace EnumType

/-- The value with this ordinal. -/
def ofOrdinal? (t : EnumType) (ordinal : Nat) : Option Nat :=
  if t.admits ordinal then some ordinal else none

/-- The ordinal of the value that the first member of this name stands for. -/
def ofName? (t : EnumType) (name : String) : Option Nat :=
  (t.members.findIdx? (· == name)).bind t.ofOrdinal?

/-- The name of a value; one beyond the members has the empty name. -/
def nameOf (t : EnumType) (ordinal : Nat) : String :=
  t.members.getD ordinal ""

end EnumType

end SqlClient
