import Mathlib.Data.List.Basic
import Mathlib.Tactic.Common
import SqlClient.Worker

/-!
# What a worker does

For each request, everything that can come of it: the answer and the worker afterwards, told by what
the engine answers to the calls. Facts about workers are read off these cases, and the functions
that serve the requests stay closed.
-/

namespace SqlClient

/-- The cursor that a call concerns. -/
def EngineCall.cursor? {κ : Type} : EngineCall κ → Option Nat
  | .hasNext number | .advance number | .closeCursor number _ => some number
  | .prepare _ _ | .query _ _ _ | .update _ _ _ | .closeSession => none

namespace Worker

variable {σ π κ : Type} (E : Engine σ π κ)

/-! ### Notes in the journal -/

section Note

variable (w : Worker σ κ) (call : EngineCall κ) (failure : Option EngineError) (s : σ)

@[simp] theorem note_session : (w.note call failure s).session = s := rfl

@[simp] theorem note_cursors : (w.note call failure s).cursors = w.cursors := rfl

@[simp] theorem note_handedBack : (w.note call failure s).handedBack = w.handedBack := rfl

@[simp] theorem note_journal : (w.note call failure s).journal = ⟨call, failure⟩ :: w.journal := rfl

@[simp] theorem note_closeOnDrop : (w.note call failure s).closeOnDrop = w.closeOnDrop := rfl

@[simp] theorem note_ended : (w.note call failure s).ended = w.ended := rfl

end Note

/-- A worker that has let go of a cursor. -/
def forget (w : Worker σ κ) (number : Nat) : Worker σ κ :=
  { w with cursors := w.cursors.filter (·.1 ≠ number) }

/-- A worker past a cursor that it has not registered. -/
def skip (w : Worker σ κ) : Worker σ κ := { w with handedBack := w.handedBack + 1 }

variable {E}

theorem release_eq (w : Worker σ κ) (number : Nat) {cursor : κ} {closed : Except EngineError Unit}
    {s : σ} (h : E.closeCursor cursor w.session = (closed, s)) :
    w.release E number cursor =
      (closed, (w.forget number).note (.closeCursor number cursor) (failure? closed) s) := by
  simp only [release, closeCursor, h, forget]

theorem discard_eq (w : Worker σ κ) {cursor : κ} {closed : Except EngineError Unit} {s : σ}
    (h : E.closeCursor cursor w.session = (closed, s)) :
    w.discard E cursor =
      (w.note (.closeCursor w.handedBack cursor) (failure? closed) s).skip := by
  simp only [discard, closeCursor, h, skip, note_handedBack]

variable (E)

/-! ### Executions -/

/-- A worker whose engine has prepared the statement. -/
def prepared (w : Worker σ κ) (x : Execution) (s : σ) : Worker σ κ :=
  w.note (.prepare x.sql x.parameters) none s

/-- What can come of an execution. -/
inductive Executed (x : Execution) (w : Worker σ κ) : Except Error Outcome × Worker σ κ → Prop
  | prepareFailed {e : EngineError} {s : σ} :
      E.prepare x.sql x.parameters w.session = (.error e, s) →
      Executed x w (.error e, w.note (.prepare x.sql x.parameters) (some e) s)
  | queryFailed {command : π} {s s' : σ} {e : EngineError} :
      E.prepare x.sql x.parameters w.session = (.ok command, s) → E.isQuery command = true →
      E.query command x.maxRows s = (.error e, s') →
      Executed x w
        (.error e, (w.prepared x s).note (.query x.sql x.parameters x.maxRows) (some e) s')
  | rows {command : π} {s s' : σ} {cursor : κ} :
      E.prepare x.sql x.parameters w.session = (.ok command, s) → E.isQuery command = true →
      E.query command x.maxRows s = (.ok cursor, s') →
      Executed x w (.ok (.rows w.handedBack (E.columns cursor s')),
        ((w.prepared x s).note (.query x.sql x.parameters x.maxRows) none s').register cursor)
  | updateFailed {command : π} {s s' : σ} {e : EngineError} :
      E.prepare x.sql x.parameters w.session = (.ok command, s) → E.isQuery command = false →
      E.update command x.keys s = (.error e, s') →
      Executed x w
        (.error e, (w.prepared x s).note (.update x.sql x.parameters x.keys) (some e) s')
  | update {command : π} {s s' : σ} {count : Nat} :
      E.prepare x.sql x.parameters w.session = (.ok command, s) → E.isQuery command = false →
      E.update command x.keys s = (.ok ⟨count, none⟩, s') →
      Executed x w
        (.ok (.update count), (w.prepared x s).note (.update x.sql x.parameters x.keys) none s')
  | updateWithKeys {command : π} {s s' : σ} {count : Nat} {cursor : κ} :
      E.prepare x.sql x.parameters w.session = (.ok command, s) → E.isQuery command = false →
      E.update command x.keys s = (.ok ⟨count, some cursor⟩, s') → x.keys.requested = true →
      Executed x w (.ok (.updateWithKeys count w.handedBack (E.columns cursor s')),
        ((w.prepared x s).note (.update x.sql x.parameters x.keys) none s').register cursor)
  | updateDiscarding {command : π} {s s' s'' : σ} {count : Nat} {cursor : κ}
      {closed : Except EngineError Unit} :
      E.prepare x.sql x.parameters w.session = (.ok command, s) → E.isQuery command = false →
      E.update command x.keys s = (.ok ⟨count, some cursor⟩, s') → x.keys.requested = false →
      E.closeCursor cursor s' = (closed, s'') →
      Executed x w (.ok (.update count),
        (((w.prepared x s).note (.update x.sql x.parameters x.keys) none s').note
          (.closeCursor w.handedBack cursor) (failure? closed) s'').skip)

/-- A worker that has not ended does one of these things. -/
theorem executed {w : Worker σ κ} (h : w.ended = false) (x : Execution) :
    Executed E x w (w.execute E x) := by
  rw [execute, unlessEnded, h, if_neg Bool.false_ne_true]
  rcases hp : E.prepare x.sql x.parameters w.session with ⟨e | command, s⟩
  · simp only [prepare, hp, failure?]
    exact .prepareFailed hp
  simp only [prepare, hp, failure?]
  cases hq : E.isQuery command with
  | true =>
    rw [if_pos rfl, openRows, query, note_session]
    rcases hr : E.query command x.maxRows s with ⟨e | cursor, s'⟩
    · exact .queryFailed hp hq hr
    · exact .rows hp hq hr
  | false =>
    rw [if_neg Bool.false_ne_true, runUpdate, Worker.update, note_session]
    rcases hr : E.update command x.keys s with ⟨e | ⟨count, _ | cursor⟩, s'⟩
    · exact .updateFailed hp hq hr
    · exact .update hp hq hr
    cases hk : x.keys.requested with
    | true => exact .updateWithKeys hp hq hr hk
    | false =>
      rcases hc : E.closeCursor cursor s' with ⟨closed, s''⟩
      simp only [Bool.false_eq_true, if_false, failure?]
      rw [discard_eq _ hc]
      exact .updateDiscarding hp hq hr hk hc

/-! ### Fetches -/

/-- What can come of a fetch from a registered cursor. -/
inductive Fetched (number : Nat) (cursor : κ) (w : Worker σ κ) :
    Except Error (Option (List Value)) × Worker σ κ → Prop
  | hasNextFailed {e : EngineError} {c : κ} {s s' : σ} {closed : Except EngineError Unit} :
      E.hasNext cursor w.session = (.error e, c, s) → E.closeCursor c s = (closed, s') →
      Fetched number cursor w (.error e, ((w.note (.hasNext number) (some e) s).forget number).note
        (.closeCursor number c) (failure? closed) s')
  | exhausted {c : κ} {s s' : σ} :
      E.hasNext cursor w.session = (.ok false, c, s) → E.closeCursor c s = (.ok (), s') →
      Fetched number cursor w (.ok none, ((w.note (.hasNext number) none s).forget number).note
        (.closeCursor number c) none s')
  | closeFailed {e : EngineError} {c : κ} {s s' : σ} :
      E.hasNext cursor w.session = (.ok false, c, s) → E.closeCursor c s = (.error e, s') →
      Fetched number cursor w (.error e, ((w.note (.hasNext number) none s).forget number).note
        (.closeCursor number c) (some e) s')
  | advanceFailed {e : EngineError} {c c' : κ} {s s' s'' : σ} {closed : Except EngineError Unit} :
      E.hasNext cursor w.session = (.ok true, c, s) → E.advance c s = (.error e, c', s') →
      E.closeCursor c' s' = (closed, s'') →
      Fetched number cursor w (.error e, (((w.note (.hasNext number) none s).note
        (.advance number) (some e) s').forget number).note
        (.closeCursor number c') (failure? closed) s'')
  | row {c c' : κ} {s s' : σ} :
      E.hasNext cursor w.session = (.ok true, c, s) → E.advance c s = (.ok (), c', s') →
      Fetched number cursor w (.ok (some (E.row c' s')),
        ((w.note (.hasNext number) none s).note (.advance number) none s').keep number c')

/-- A fetch does one of these things. -/
theorem fetched {w : Worker σ κ} (h : w.ended = false) {number : Nat} {cursor : κ}
    (hcursor : w.cursors.lookup number = some cursor) :
    Fetched E number cursor w (w.fetch E number) := by
  rw [fetch, unlessEnded, h, if_neg Bool.false_ne_true, hcursor]
  rcases hn : E.hasNext cursor w.session with ⟨e | _ | _, c, s⟩
  · rcases hc : E.closeCursor c s with ⟨closed, s'⟩
    simp only [hasNext, hn, failure?]
    rw [release_eq _ number hc]
    exact .hasNextFailed hn hc
  · simp only [hasNext, hn, failure?]
    rcases hc : E.closeCursor c s with ⟨e | _, s'⟩
    · rw [release_eq _ number hc]
      exact .closeFailed hn hc
    · rw [release_eq _ number hc]
      exact .exhausted hn hc
  · simp only [hasNext, hn, advance, note_session, failure?]
    rcases ha : E.advance c s with ⟨e | _, c', s'⟩
    · rcases hc : E.closeCursor c' s' with ⟨closed, s''⟩
      dsimp only
      rw [release_eq _ number hc]
      exact .advanceFailed hn ha hc
    · exact .row hn ha

end Worker

end SqlClient
