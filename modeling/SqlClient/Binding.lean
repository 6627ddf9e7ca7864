import SqlClient.Error
import SqlClient.Sql.Placeholder
import SqlClient.Value

/-!
# Bound parameters

A `Binding` holds the parameters of one execution by their index. `Bindings` collects one binding per
execution: parameters are bound into the current group until it is closed, and the next parameter opens
another group.
-/

namespace SqlClient

/-- Sets the parameter of an index among parameters in ascending order. -/
def setParameter (index : Nat) (v : Value) : List (Nat × Value) → List (Nat × Value)
  | [] => [(index, v)]
  | (i, w) :: rest =>
    if index < i then (index, v) :: (i, w) :: rest
    else if index = i then (index, v) :: rest
    else (i, w) :: setParameter index v rest

theorem mem_keys_setParameter {index i : Nat} {v : Value} {ps : List (Nat × Value)} :
    i ∈ (setParameter index v ps).map Prod.fst → i = index ∨ i ∈ ps.map Prod.fst := by
  induction ps with
  | nil => simp [setParameter]
  | cons p ps ih =>
    obtain ⟨j, w⟩ := p
    simp only [setParameter]
    split
    · simp
    · split
      · simp only [List.map_cons, List.mem_cons]
        exact fun h => h.imp_right .inr
      · simp only [List.map_cons, List.mem_cons]
        rintro (h | h)
        · exact .inr (.inl h)
        · exact (ih h).imp_right .inr

/-- Setting a parameter keeps the indices in order. -/
theorem pairwise_setParameter {index : Nat} {v : Value} {ps : List (Nat × Value)}
    (h : (ps.map Prod.fst).Pairwise (· < ·)) :
    ((setParameter index v ps).map Prod.fst).Pairwise (· < ·) := by
  induction ps with
  | nil => simp [setParameter]
  | cons p ps ih =>
    obtain ⟨j, w⟩ := p
    simp only [List.map_cons, List.pairwise_cons] at h
    simp only [setParameter]
    split
    next hlt =>
      simp only [List.map_cons, List.pairwise_cons, List.mem_cons]
      exact ⟨fun i hi => hi.elim (· ▸ hlt) fun hi => Nat.lt_trans hlt (h.1 i hi), h⟩
    next hge =>
      split
      next heq => subst heq; simpa using h
      next hne =>
        simp only [List.map_cons, List.pairwise_cons]
        refine ⟨fun i hi => ?_, ih h.2⟩
        rcases mem_keys_setParameter hi with rfl | hi
        · omega
        · exact h.1 i hi

/-- The parameters of one execution, in the order of their indices. -/
structure Binding where
  parameters : List (Nat × Value)
  ascending : (parameters.map Prod.fst).Pairwise (· < ·)

namespace Binding

/-- No parameters. -/
def empty : Binding := ⟨[], by simp⟩

/-- Sets a parameter; what was bound to the index before is lost. -/
def set (b : Binding) (index : Nat) (v : Value) : Binding :=
  ⟨setParameter index v b.parameters, pairwise_setParameter b.ascending⟩

/-- Whether nothing is bound. -/
def isEmpty (b : Binding) : Bool := b.parameters.isEmpty

/-- The values of parameters with the indices from `expected` on; the first index that is missing is an
error. -/
def valuesFrom (expected : Nat) : List (Nat × Value) → Except Error (List Value)
  | [] => .ok []
  | (index, v) :: rest =>
    if index = expected then do return v :: (← valuesFrom (expected + 1) rest)
    else .error (.parameterNotSet (expected + 1))

/-- The values in the order of their indices, none of which may be missing. -/
def values (b : Binding) : Except Error (List Value) := valuesFrom 0 b.parameters

end Binding

/-- Where a set of bindings stands. -/
inductive BindingState where
  /-- Nothing has been bound. -/
  | empty
  /-- The current group has parameters. -/
  | bound
  /-- A group has been closed and the next one has no parameters yet. -/
  | awaitingGroup
  deriving DecidableEq, Repr

/-- The groups that have been closed, and the one that is being bound. -/
structure Bindings where
  closed : List Binding
  current : Option Binding

namespace Bindings

/-- No groups. -/
def empty : Bindings := ⟨[], none⟩

/-- All groups in order. -/
def groups (b : Bindings) : List Binding := b.closed ++ b.current.toList

/-- Where binding stands: nothing bound yet, a group open, or the last group finished. -/
def state (b : Bindings) : BindingState :=
  match b.current with
  | some _ => .bound
  | none => if b.closed.isEmpty then .empty else .awaitingGroup

/-- Binds a parameter in the current group, which is opened if need be. -/
def bind (b : Bindings) (index : Nat) (v : Value) : Bindings :=
  { b with current := some ((b.current.getD .empty).set index v) }

/-- Closes the current group. -/
def add (b : Bindings) : Except Error Bindings :=
  match b.current with
  | some group => .ok ⟨b.closed ++ [group], none⟩
  | none => .error .nothingBound

/-- The groups to execute; without any, one execution without parameters. -/
def executions (b : Bindings) : Except Error (List Binding) :=
  match b.state with
  | .awaitingGroup => .error .unfinishedGroup
  | .empty => .ok [.empty]
  | .bound => .ok b.groups

end Bindings

/-- The index that an identifier names. -/
def parameterIndex (identifier : String) : Except Error Nat :=
  match Sql.parameterIndex? identifier with
  | some index => .ok index
  | none => .error (.badIdentifier identifier)

end SqlClient
