import SqlClient.Proofs.Worker.Cursors
import SqlClient.QueryResult

/-!
# A connection in use

Many streams share one worker: executions open row streams, and polls of these streams, further
executions, drops and a close come in any order. A run is what happens in such an order, together
with what the polls brought. A cursor that a stream reads is its own: nobody else ever reads it.
-/

namespace SqlClient

/-- A worker and the row streams over its cursors, in the order in which executions opened them. A
stream that has been dropped is gone. -/
structure Usage (σ κ : Type) where
  worker : Worker σ κ
  streams : List (Option RowStream)

/-- What can happen on a connection. -/
inductive Action where
  /-- A statement runs; the rows it gives are a new stream. -/
  | execute (x : Execution)
  /-- The stream with this index is polled. -/
  | poll (i : Nat)
  | countCursors
  | drop (i : Nat)
  /-- A stream is dropped while a poll is under way: the worker still answers, and nobody hears. -/
  | abandon (i : Nat)
  | close

/-- The stream that an action is about. -/
def Action.stream? : Action → Option Nat
  | .poll i | .drop i | .abandon i => some i
  | .execute _ | .countCursors | .close => none

/-- An action polls the stream, drops it, or is not about it. -/
theorem Action.about (action : Action) (i : Nat) :
    action = .poll i ∨ (action = .drop i ∨ action = .abandon i) ∨ action.stream? ≠ some i := by
  cases action with
  | poll j | drop j | abandon j => simp [stream?, em]
  | execute _ | countCursors | close => simp [stream?]

/-- What a poll of a row stream brings. -/
abbrev RowPoll := Poll (Except Error Row)

/-- The streams that an execution opens: one over the rows it gives, if it gives any. -/
def opened (registry : Registry) : Except Error Outcome → List RowStream
  | .ok outcome => (QueryResult.ofOutcome registry outcome).rows?.toList
  | .error _ => []

/-- What the polls of one stream brought. -/
def broughtBy (i : Nat) (polls : List (Nat × RowPoll)) : List RowPoll :=
  (polls.filter (·.1 = i)).map Prod.snd

namespace Usage

variable {σ π κ : Type}

/-- A connection that nobody has used yet. -/
def start (session : σ) (closeOnDrop : Bool) : Usage σ κ := ⟨.start session closeOnDrop, []⟩

/-- The stream with this index, unless it was dropped. -/
def stream? (u : Usage σ κ) (i : Nat) : Option RowStream := u.streams[i]?.join

variable (c : Connection σ π κ)

/-- What happens, and what a poll brings. -/
def step (u : Usage σ κ) : Action → Option (Nat × RowPoll) × Usage σ κ
  | .execute x =>
    let r := u.worker.execute c.engine x
    (none, ⟨r.2, u.streams ++ (opened c.conversions.registry r.1).map some⟩)
  | .poll i =>
    match u.stream? i with
    | some s =>
      let r := (RowStream.source c).poll s u.worker
      (some (i, r.1), ⟨r.2.2, u.streams.set i (some r.2.1)⟩)
    | none => (none, u)
  | .countCursors => (none, { u with worker := u.worker.openCursors.2 })
  | .drop i => (none, { u with streams := u.streams.set i none })
  | .abandon i =>
    match u.stream? i with
    | some s => (none, ⟨((RowStream.source c).poll s u.worker).2.2, u.streams.set i none⟩)
    | none => (none, u)
  | .close => (none, { u with worker := (u.worker.close c.engine).2 })

/-- What happens in turn, and what the polls bring. -/
def run (u : Usage σ κ) : List Action → List (Nat × RowPoll) × Usage σ κ
  | [] => ([], u)
  | action :: later =>
    let now := u.step c action
    let rest := run now.2 later
    (now.1.toList ++ rest.1, rest.2)

/-- A connection before it is closed. Its streams read cursors that have been given out. -/
structure Open (u : Usage σ κ) : Prop where
  worker : u.worker.Sound
  running : u.worker.ended = false
  cursor_lt : ∀ i s, u.stream? i = some s → s.cursor < u.worker.handedBack

/-- If any stream reads the cursor, it is this one. -/
structure Owns (u : Usage σ κ) (i number : Nat) : Prop where
  number_lt : number < u.worker.handedBack
  index_lt : i < u.streams.length
  owner : ∀ j s, u.stream? j = some s → s.cursor = number → j = i

/-! ### Streams in their places -/

section Places

variable {u : Usage σ κ} {w : Worker σ κ} {i j : Nat}

theorem stream?_set_self {s : Option RowStream} (h : i < u.streams.length) :
    stream? ⟨w, u.streams.set i s⟩ i = s := by
  rw [stream?, List.getElem?_set_self h, Option.join_some]

theorem stream?_set_of_ne {s : Option RowStream} (h : i ≠ j) :
    stream? ⟨w, u.streams.set i s⟩ j = u.stream? j := by
  rw [stream?, List.getElem?_set_ne h, stream?]

/-- A stream of a list with one place changed is what was put there, or it was there before. -/
theorem stream?_set {left : Option RowStream} {t : RowStream}
    (h : stream? ⟨w, u.streams.set i left⟩ j = some t) :
    i = j ∧ left = some t ∨ i ≠ j ∧ u.stream? j = some t := by
  rcases eq_or_ne i j with rfl | hij
  · rw [stream?, Option.join_eq_some_iff, List.getElem?_set, if_pos rfl] at h
    split_ifs at h
    exact .inl ⟨rfl, Option.some.inj h⟩
  · rw [stream?_set_of_ne hij] at h
    exact .inr ⟨hij, h⟩

theorem index_lt_of_stream? {s : RowStream} (h : u.stream? i = some s) : i < u.streams.length := by
  rw [stream?, Option.join_eq_some_iff] at h
  exact (List.getElem?_eq_some_iff.mp h).1

theorem stream?_append_of_lt {more : List (Option RowStream)} (h : i < u.streams.length) :
    stream? ⟨w, u.streams ++ more⟩ i = u.stream? i := by
  rw [stream?, List.getElem?_append_left h, stream?]

/-- A stream of a longer list was there before or is one of the new ones. -/
theorem stream?_append {more : List RowStream} {s : RowStream}
    (h : stream? ⟨w, u.streams ++ more.map some⟩ i = some s) : u.stream? i = some s ∨ s ∈ more := by
  rw [stream?, Option.join_eq_some_iff] at h
  rcases Nat.lt_or_ge i u.streams.length with hi | hi
  · rw [List.getElem?_append_left hi] at h
    exact .inl (Option.join_eq_some_iff.mpr h)
  · rw [List.getElem?_append_right hi] at h
    obtain ⟨t, ht, hts⟩ := List.mem_map.mp (List.mem_of_getElem? h)
    rw [← Option.some.inj hts]
    exact .inr ht

end Places

/-! ### What an execution opens -/

theorem opened_of_executed {registry : Registry} {E : Engine σ π κ} {x : Execution}
    {w : Worker σ κ} {r : Except Error Outcome × Worker σ κ} (hr : Worker.Executed E x w r)
    {s : RowStream} (hs : s ∈ opened registry r.1) :
    s.cursor = w.handedBack ∧ s.cursor < r.2.handedBack := by
  cases hr with
  | rows _ _ _ | updateWithKeys _ _ _ _ =>
    obtain rfl := List.mem_singleton.mp hs
    exact ⟨rfl, Nat.lt_succ_self _⟩
  | prepareFailed | queryFailed | updateFailed | update | updateDiscarding => cases hs

/-! ### What a poll leaves -/

section Polls

variable {c : Connection σ π κ} {s : RowStream} {w : Worker σ κ}

theorem poll_of_done (h : s.done = true) : (RowStream.source c).poll s w = (.ended, s, w) := by
  simp only [RowStream.source, h, if_true]

theorem poll_worker (h : s.done = false) :
    ((RowStream.source c).poll s w).2.2 = (w.fetch c.engine s.cursor).2 := by
  simp only [RowStream.source, h, Bool.false_eq_true, if_false]
  rcases w.fetch c.engine s.cursor with ⟨e | _ | values, w'⟩ <;> rfl

theorem poll_cursor : ((RowStream.source c).poll s w).2.1.cursor = s.cursor := by
  cases h : s.done with
  | true => rw [poll_of_done h]
  | false =>
    simp only [RowStream.source, h, Bool.false_eq_true, if_false]
    rcases w.fetch c.engine s.cursor with ⟨e | _ | values, w'⟩ <;> rfl

end Polls

/-! ### An open connection stays open -/

section Steps

variable {c} {u : Usage σ κ}

theorem Open.start (session : σ) (closeOnDrop : Bool) :
    (Usage.start session closeOnDrop : Usage σ κ).Open :=
  ⟨.start session closeOnDrop, rfl, nofun⟩

/-- A poll, whatever becomes of the stream afterwards. -/
theorem Open.poll (h : u.Open) {i : Nat} {s : RowStream} (hs : u.stream? i = some s)
    {left : Option RowStream} (hleft : ∀ t, left = some t → t.cursor = s.cursor) :
    Open ⟨((RowStream.source c).poll s u.worker).2.2, u.streams.set i left⟩ := by
  have hlt := h.cursor_lt i s hs
  have hstreams : ∀ j t, stream? (κ := κ) ⟨u.worker, u.streams.set i left⟩ j = some t →
      t.cursor < u.worker.handedBack := by
    intro j t ht
    rcases stream?_set ht with ⟨-, rfl⟩ | ⟨-, ht⟩
    · rw [hleft t rfl]
      exact hlt
    · exact h.cursor_lt j t ht
  cases hd : s.done with
  | true =>
    rw [poll_of_done hd]
    exact ⟨h.worker, h.running, hstreams⟩
  | false =>
    rw [poll_worker hd]
    refine ⟨h.worker.fetch c.engine h.running hlt, Worker.ended_fetch _ h.running _, ?_⟩
    rw [Worker.handedBack_fetch _ h.running]
    exact hstreams

theorem Open.step (h : u.Open) {action : Action} (ha : action ≠ .close) :
    (u.step c action).2.Open := by
  cases action with
  | execute x =>
    have hr := Worker.executed c.engine h.running x
    refine ⟨hr.sound h.worker, hr.ended_eq.trans h.running, fun i s hs => ?_⟩
    rcases stream?_append hs with hs | hs
    · exact Nat.lt_of_lt_of_le (h.cursor_lt i s hs) hr.handedBack_le
    · exact (opened_of_executed hr hs).2
  | poll i =>
    rw [Usage.step]
    cases hs : u.stream? i with
    | none => exact h
    | some s =>
      refine h.poll hs fun t ht => ?_
      rw [← Option.some.inj ht]
      exact poll_cursor
  | countCursors =>
    rw [Usage.step, Worker.openCursors_eq h.running]
    exact h
  | drop i =>
    refine ⟨h.worker, h.running, fun j t ht => ?_⟩
    rcases stream?_set ht with ⟨-, ht⟩ | ⟨-, ht⟩
    · cases ht
    · exact h.cursor_lt j t ht
  | abandon i =>
    rw [Usage.step]
    cases hs : u.stream? i with
    | none => exact h
    | some s => exact h.poll hs nofun
  | close => exact absurd rfl ha

theorem Open.run {actions : List Action} (ha : .close ∉ actions) (h : u.Open) :
    (u.run c actions).2.Open := by
  induction actions generalizing u with
  | nil => exact h
  | cons action later ih =>
    rw [List.mem_cons, not_or] at ha
    exact ih ha.2 (h.step (Ne.symm ha.1))

/-! ### A cursor has one reader -/

theorem Owns.set {i number : Nat} (ho : u.Owns i number) {j : Nat} {left : Option RowStream}
    (hleft : ∀ t, left = some t → ∃ s, u.stream? j = some s ∧ t.cursor = s.cursor)
    {w : Worker σ κ} (hw : w.handedBack = u.worker.handedBack) :
    Owns ⟨w, u.streams.set j left⟩ i number := by
  refine ⟨?_, ?_, fun k t ht hn => ?_⟩
  · rw [hw]
    exact ho.number_lt
  · rw [List.length_set]
    exact ho.index_lt
  · rcases stream?_set ht with ⟨rfl, rfl⟩ | ⟨-, ht⟩
    · obtain ⟨s, hs, hts⟩ := hleft t rfl
      exact ho.owner j s hs (hts ▸ hn)
    · exact ho.owner k t ht hn

theorem handedBack_poll (h : u.worker.ended = false) (s : RowStream) :
    ((RowStream.source c).poll s u.worker).2.2.handedBack = u.worker.handedBack := by
  cases hd : s.done with
  | true => rw [poll_of_done hd]
  | false => rw [poll_worker hd, Worker.handedBack_fetch _ h]

theorem Owns.step {i number : Nat} (ho : u.Owns i number) (h : u.Open) {action : Action}
    (ha : action ≠ .close) : (u.step c action).2.Owns i number := by
  cases action with
  | execute x =>
    have hr := Worker.executed c.engine h.running x
    refine ⟨Nat.lt_of_lt_of_le ho.number_lt hr.handedBack_le, ?_, fun j s hs hn => ?_⟩
    · rw [Usage.step, List.length_append]
      exact Nat.lt_add_right _ ho.index_lt
    · rcases stream?_append hs with hs | hs
      · exact ho.owner j s hs hn
      · have hnew := (opened_of_executed hr hs).1
        have hlt := ho.number_lt
        omega
  | poll j =>
    rw [Usage.step]
    cases hs : u.stream? j with
    | none => exact ho
    | some s =>
      refine ho.set (fun t ht => ⟨s, hs, ?_⟩) (handedBack_poll h.running s)
      rw [← Option.some.inj ht]
      exact poll_cursor
  | countCursors =>
    rw [Usage.step, Worker.openCursors_eq h.running]
    exact ho
  | drop j => exact ho.set (by nofun) rfl
  | abandon j =>
    rw [Usage.step]
    cases hs : u.stream? j with
    | none => exact ho
    | some s => exact ho.set (by nofun) (handedBack_poll h.running s)
  | close => exact absurd rfl ha

/-! ### What is not about a stream leaves it alone -/

/-- Another stream's poll leaves the cursor alone. -/
theorem Owns.untouched_poll {i number : Nat} (ho : u.Owns i number) (h : u.Open) {j : Nat}
    (hj : j ≠ i) {s : RowStream} (hs : u.stream? j = some s) :
    Worker.Untouched number u.worker ((RowStream.source c).poll s u.worker).2.2 := by
  have hne : number ≠ s.cursor := fun hn => hj (ho.owner j s hs hn.symm)
  cases hd : s.done with
  | true =>
    rw [poll_of_done hd]
    exact ⟨rfl, rfl⟩
  | false =>
    rw [poll_worker hd]
    exact Worker.untouched_fetch _ h.running hne

/-- An action that is not about the stream leaves it, and its cursor, as they were. -/
theorem Owns.untouched {i number : Nat} (ho : u.Owns i number) (h : u.Open) {action : Action}
    (ha : action ≠ .close) (hi : action.stream? ≠ some i) :
    Worker.Untouched number u.worker (u.step c action).2.worker ∧
      (u.step c action).2.stream? i = u.stream? i := by
  cases action with
  | execute x =>
    refine ⟨(Worker.executed c.engine h.running x).untouched ho.number_lt, ?_⟩
    exact stream?_append_of_lt ho.index_lt
  | poll j =>
    have hj : j ≠ i := fun hj => hi (congrArg some hj)
    rw [Usage.step]
    cases hs : u.stream? j with
    | none => exact ⟨⟨rfl, rfl⟩, rfl⟩
    | some s => exact ⟨ho.untouched_poll h hj hs, stream?_set_of_ne hj⟩
  | countCursors =>
    rw [Usage.step, Worker.openCursors_eq h.running]
    exact ⟨⟨rfl, rfl⟩, rfl⟩
  | drop j =>
    have hj : j ≠ i := fun hj => hi (congrArg some hj)
    exact ⟨⟨rfl, rfl⟩, stream?_set_of_ne hj⟩
  | abandon j =>
    have hj : j ≠ i := fun hj => hi (congrArg some hj)
    rw [Usage.step]
    cases hs : u.stream? j with
    | none => exact ⟨⟨rfl, rfl⟩, rfl⟩
    | some s => exact ⟨ho.untouched_poll h hj hs, stream?_set_of_ne hj⟩
  | close => exact absurd rfl ha

end Steps

end Usage

end SqlClient
