import Mathlib.Tactic.Common
import SqlClient.HostValue

/-!
# Normal host values

A host value loses some of its form when it is written: a parameter its wrapping, an instant its
name, a length of time that of the client, and the label of an enum its spelling. What is left of it
all the way down is its normal form.
-/

namespace SqlClient

namespace HostValue

/-- A value that holds no others. -/
def isScalar : HostValue → Bool
  | .array _ | .parameter _ _ => false
  | _ => true

/-- What holds of scalars, and of arrays and parameters if it holds of what they hold, holds of all
values. -/
@[elab_as_elim]
theorem nested {P : HostValue → Prop} (scalar : ∀ h, h.isScalar = true → P h)
    (array : ∀ items, (∀ h, some h ∈ items → P h) → P (.array items))
    (parameter : ∀ type value, (∀ h, value = some h → P h) → P (.parameter type value))
    (h : HostValue) : P h := by
  cases h with
  | array items => exact array items fun h hmem => nested scalar array parameter h
  | parameter type value =>
    exact parameter type value fun h hvalue => nested scalar array parameter h
  | _ => exact scalar _ rfl
termination_by sizeOf h
decreasing_by
  · have hlt := List.sizeOf_lt_of_mem hmem
    simp only [Option.some.sizeOf_spec, HostValue.array.sizeOf_spec] at hlt ⊢
    omega
  · subst hvalue
    simp only [Option.some.sizeOf_spec, HostValue.parameter.sizeOf_spec]
    omega

/-- A document in a value, however deep. -/
inductive Holds (j : Json) : HostValue → Prop
  | document : Holds j (.json j)
  | item {items : List (Option HostValue)} {h : HostValue} :
      some h ∈ items → Holds j h → Holds j (.array items)
  | value {type : HostType} {h : HostValue} : Holds j h → Holds j (.parameter type (some h))

/-- What the engine makes of a value, or the value itself where the engine refuses it. -/
def madeOf {α : Type} (wrap : α → HostValue) (h : HostValue) : Except EngineError α → HostValue
  | .ok a => wrap a
  | .error _ => h

mutual

/-- The normal form of a value; a typed null has none. -/
def canon : HostValue → Option HostValue
  | .enum name members =>
    some (madeOf (fun e => .enum e.label e.members) (.enum name members)
      (EnumValue.resolve members name))
  | .instant t => some (.offsetDateTime t.atUtc)
  | .period p => some (madeOf .interval (.period p) p.toInterval)
  | .duration d => some (madeOf .interval (.duration d) d.toInterval)
  | .array items => some (.array (canonItems items))
  | .parameter _ value => canonItem value
  | h => some h

/-- The normal forms of items. -/
def canonItems : List (Option HostValue) → List (Option HostValue)
  | [] => []
  | item :: items => canonItem item :: canonItems items

/-- The normal form where there is a value. -/
def canonItem : Option HostValue → Option HostValue
  | none => none
  | some h => canon h

end

/-- What comes back of a value that is read as the type it had: the value itself, except that arrays
and enums are in normal form and a period may divide its months otherwise. -/
def GivenBack (r : Option HostValue) : HostValue → Prop
  | .period p => ∃ q : Period, r = some (.period q) ∧ q.totalMonths? = p.totalMonths?
  | .enum name members => r = canon (.enum name members)
  | .array items => r = canon (.array items)
  | h => r = some h

end HostValue

end SqlClient
