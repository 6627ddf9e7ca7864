import SqlClient.Proofs.Connection.Isolation
import SqlClient.Proofs.Worker.Lifecycle

/-!
# The cursors of a connection in use

The worker of a connection serves the requests that come of what happens on the connection. A stream
that has not ended always finds its cursor in the table of the worker, until the worker ends.
-/

namespace SqlClient

variable {σ π κ : Type}

/-- A cursor fails with what the engine reports. -/
theorem Engine.failure_of_delivery {E : Engine σ π κ} {s : σ} {left : Option κ} {e : Error}
    (h : (E.delivery s left).1 = .item (.error e)) : ∃ failure, e = .engine failure := by
  cases left with
  | none => cases h
  | some cursor =>
    rw [delivery] at h
    split at h
    · exact ⟨_, (Except.error.inj (Poll.item.inj h)).symm⟩
    · split at h
      · exact ⟨_, (Except.error.inj (Poll.item.inj h)).symm⟩
      · cases h
    · split at h
      · exact ⟨_, (Except.error.inj (Poll.item.inj h)).symm⟩
      · cases h

namespace Usage

variable {c : Connection σ π κ} {u : Usage σ κ}

/-! ### Requests -/

/-- The request that comes of what happens. -/
def request? (u : Usage σ κ) : Action → Option Request
  | .execute x => some (.execute x)
  | .poll i | .abandon i =>
    (u.stream? i).bind fun s => if s.done then none else some (.fetch s.cursor)
  | .countCursors => some .openCursors
  | .drop _ => none
  | .close => some .close

theorem worker_step (action : Action) : (u.step c action).2.worker =
    (u.request? action).elim u.worker fun q => (u.worker.serve c.engine q).2 := by
  cases action with
  | execute x => rfl
  | poll i | abandon i =>
    rw [step, request?]
    cases u.stream? i with
    | none => rfl
    | some s =>
      cases hd : s.done with
      | true => simp [poll_of_done hd, hd]
      | false => simp [poll_worker hd, hd, Worker.serve]
  | countCursors => rfl
  | drop i => rfl
  | close => rfl

theorem request?_eq_close {action : Action} :
    u.request? action = some .close ↔ action = .close := by
  cases action with
  | poll i | abandon i =>
    rw [request?]
    cases u.stream? i with
    | none => simp
    | some s => cases hd : s.done <;> simp [hd]
  | _ => simp [request?]

/-- An ended worker stays as it is. -/
theorem worker_run_of_ended (h : u.worker.ended = true) (actions : List Action) :
    (u.run c actions).2.worker = u.worker := by
  induction actions generalizing u with
  | nil => rfl
  | cons action later ih =>
    have hstep : (u.step c action).2.worker = u.worker := by
      rw [worker_step]
      cases u.request? action with
      | none => rfl
      | some q => rw [Option.elim_some, Worker.serve_of_ended h]
    rw [run, ← hstep]
    exact ih (hstep ▸ h)

/-- The worker of a connection in use serves requests, and a close is among them if there is one
among the things that happen. -/
theorem worker_run (h : u.worker.ended = false) (actions : List Action) :
    ∃ requests, (u.run c actions).2.worker = (u.worker.serveWaiting c.engine requests).2 ∧
      (.close ∈ requests ↔ .close ∈ actions) := by
  induction actions generalizing u with
  | nil => exact ⟨[], rfl, by simp⟩
  | cons action later ih =>
    by_cases hclose : action = .close
    · subst hclose
      have hended : (u.step c .close).2.worker.ended = true := by
        rw [step, Worker.close_eq h]
        rfl
      refine ⟨[.close], worker_run_of_ended hended later, by simp⟩
    have hworker := worker_step (c := c) (u := u) action
    cases hq : u.request? action with
    | none =>
      rw [hq, Option.elim_none] at hworker
      obtain ⟨requests, hrun, hiff⟩ := ih (hworker ▸ h)
      rw [hworker] at hrun
      exact ⟨requests, hrun, by simpa [Ne.symm hclose] using hiff⟩
    | some q =>
      rw [hq, Option.elim_some] at hworker
      have hne : q ≠ .close := by
        rintro rfl
        exact hclose (request?_eq_close.mp hq)
      obtain ⟨requests, hrun, hiff⟩ := ih (hworker ▸ Worker.ended_serve c.engine h hne)
      refine ⟨q :: requests, ?_, ?_⟩
      · rw [Worker.serveWaiting_cons hne, ← hworker]
        exact hrun
      · simpa [Ne.symm hclose, Ne.symm hne] using hiff

/-! ### Streams -/

/-- Every stream reads what is left of a cursor of its own. -/
structure Attended (u : Usage σ κ) : Prop where
  isOpen : u.Open
  reads : ∀ i s, u.stream? i = some s → ∃ left, u.Reads i s left
  owns : ∀ i s, u.stream? i = some s → u.Owns i s.cursor

theorem Attended.start (session : σ) (closeOnDrop : Bool) :
    (Usage.start session closeOnDrop : Usage σ κ).Attended :=
  ⟨.start session closeOnDrop, nofun, nofun⟩

theorem ne_of_stream?_eq_none {i j : Nat} {s : RowStream} (hj : u.stream? j = none)
    (h : u.stream? i = some s) : j ≠ i := by
  rintro rfl
  rw [hj] at h
  cases h

/-- A stream that is there after an action was there before it, or an execution has opened it. -/
theorem stream?_step {action : Action} (ha : action ≠ .close) {i : Nat} {s : RowStream}
    (h : (u.step c action).2.stream? i = some s) :
    (action.stream? ≠ some i ∧ u.stream? i = some s) ∨ (action = .poll i ∧ u.stream? i ≠ none) ∨
      ∃ x, action = .execute x ∧ u.streams.length ≤ i := by
  cases action with
  | execute x =>
    rcases Nat.lt_or_ge i u.streams.length with hi | hi
    · exact .inl ⟨(Option.some_ne_none i).symm, (stream?_append_of_lt hi).symm.trans h⟩
    · exact .inr (.inr ⟨x, rfl, hi⟩)
  | poll j =>
    rw [step] at h
    cases hj : u.stream? j with
    | none =>
      rw [hj] at h
      exact .inl ⟨fun hij => ne_of_stream?_eq_none hj h (Option.some.inj hij), h⟩
    | some t =>
      rw [hj] at h
      rcases stream?_set h with ⟨rfl, -⟩ | ⟨hne, h⟩
      · exact .inr (.inl ⟨rfl, by simp [hj]⟩)
      · exact .inl ⟨fun hij => hne (Option.some.inj hij), h⟩
  | countCursors => exact .inl ⟨(Option.some_ne_none i).symm, h⟩
  | drop j =>
    rcases stream?_set h with ⟨-, h⟩ | ⟨hne, h⟩
    · cases h
    · exact .inl ⟨fun hij => hne (Option.some.inj hij), h⟩
  | abandon j =>
    rw [step] at h
    cases hj : u.stream? j with
    | none =>
      rw [hj] at h
      exact .inl ⟨fun hij => ne_of_stream?_eq_none hj h (Option.some.inj hij), h⟩
    | some t =>
      rw [hj] at h
      rcases stream?_set h with ⟨-, h⟩ | ⟨hne, h⟩
      · cases h
      · exact .inl ⟨fun hij => hne (Option.some.inj hij), h⟩
  | close => exact absurd rfl ha

/-- The stream that an execution opens. -/
theorem Attended.execute (hu : u.Attended) {x : Execution} {i : Nat} {s : RowStream}
    (h : (u.step c (.execute x)).2.stream? i = some s) (hi : u.streams.length ≤ i) :
    (∃ left, (u.step c (.execute x)).2.Reads i s left) ∧
      (u.step c (.execute x)).2.Owns i s.cursor := by
  have hr := Worker.executed c.engine hu.isOpen.running x
  have hlt : i < u.streams.length +
      (opened c.conversions.registry (u.worker.execute c.engine x).1).length := by
    have hlt := index_lt_of_stream? h
    rwa [step, List.length_append, List.length_map] at hlt
  cases hx : c.engine.handsBack x u.worker.session with
  | none =>
    rw [hr.opened_eq_nil hx, List.length_nil] at hlt
    omega
  | some handed =>
    obtain ⟨cursor, session⟩ := handed
    rw [(hr.of_handsBack hu.isOpen.worker hx c.conversions.registry).1,
      List.length_singleton] at hlt
    obtain rfl : i = u.streams.length := by omega
    obtain ⟨hreads, howns, -⟩ := hu.isOpen.execute_reads hx
    obtain rfl := Option.some.inj (hreads.stream?_eq.symm.trans h)
    exact ⟨⟨_, hreads⟩, howns⟩

theorem Attended.step (hu : u.Attended) {action : Action} (ha : action ≠ .close) :
    (u.step c action).2.Attended := by
  have hboth : ∀ i s, (u.step c action).2.stream? i = some s →
      (∃ left, (u.step c action).2.Reads i s left) ∧ (u.step c action).2.Owns i s.cursor := by
    intro i s h
    rcases stream?_step ha h with ⟨hi, hs⟩ | ⟨rfl, hs⟩ | ⟨x, rfl, hi⟩
    · obtain ⟨left, hreads⟩ := hu.reads i s hs
      have howns := hu.owns i s hs
      exact ⟨⟨left, hreads.step_of_ne howns hu.isOpen ha hi⟩, howns.step hu.isOpen ha⟩
    · obtain ⟨t, ht⟩ := Option.ne_none_iff_exists'.mp hs
      obtain ⟨left, hreads⟩ := hu.reads i t ht
      obtain ⟨-, hnext⟩ := hreads.poll hu.isOpen (c := c)
      obtain rfl := Option.some.inj (hnext.stream?_eq.symm.trans h)
      exact ⟨⟨_, hnext.stream?_eq, hnext.lookup_eq⟩, (hu.owns i t ht).step hu.isOpen ha⟩
    · exact hu.execute h hi
  exact ⟨hu.isOpen.step ha, fun i s h => (hboth i s h).1, fun i s h => (hboth i s h).2⟩

/-! ### Polls -/

theorem poll_of_step {action : Action} {poll : Nat × RowPoll}
    (h : (u.step c action).1 = some poll) : ∃ i s, action = .poll i ∧ u.stream? i = some s ∧
      poll = (i, ((RowStream.source c).poll s u.worker).1) := by
  cases action with
  | poll i =>
    rw [step] at h
    cases hs : u.stream? i with
    | none =>
      rw [hs] at h
      cases h
    | some s =>
      rw [hs] at h
      exact ⟨i, s, rfl, hs, (Option.some.inj h).symm⟩
  | abandon i =>
    rw [step] at h
    cases hs : u.stream? i <;> rw [hs] at h <;> cases h
  | execute _ | countCursors | drop _ | close => cases h

/-- A stream finds its cursor in the table. -/
theorem Attended.poll_ne (hu : u.Attended) {action : Action} {poll : Nat × RowPoll}
    (h : (u.step c action).1 = some poll) (number : Nat) :
    poll.2 ≠ .item (.error (.cursorClosed number)) := by
  obtain ⟨i, s, rfl, hs, -⟩ := poll_of_step h
  obtain ⟨left, hreads⟩ := hu.reads i s hs
  rw [(hreads.poll hu.isOpen).1] at h
  obtain rfl := Option.some.inj h
  intro hclosed
  rcases hd : (c.engine.delivery u.worker.session left).1 with (e | values) | _ | _
  · obtain ⟨failure, rfl⟩ := Engine.failure_of_delivery hd
    rw [hd] at hclosed
    cases hclosed
  all_goals
    rw [hd] at hclosed
    cases hclosed

/-- A poll of an ended worker does not get as far as the table. -/
theorem poll_ne_of_ended (hended : u.worker.ended = true) {action : Action} {poll : Nat × RowPoll}
    (h : (u.step c action).1 = some poll) (number : Nat) :
    poll.2 ≠ .item (.error (.cursorClosed number)) := by
  obtain ⟨i, s, -, -, rfl⟩ := poll_of_step h
  cases hd : s.done with
  | true =>
    rw [poll_of_done hd]
    intro h
    cases h
  | false =>
    simp only [RowStream.source, hd, Worker.fetch, Worker.unlessEnded, hended, if_true,
      Bool.false_eq_true, if_false]
    intro h
    cases h

/-- No poll of any stream is told that its cursor is closed. -/
theorem polls_ne (hu : u.Attended ∨ u.worker.ended = true) (actions : List Action) :
    ∀ poll ∈ (u.run c actions).1, ∀ number, poll.2 ≠ .item (.error (.cursorClosed number)) := by
  induction actions generalizing u with
  | nil => exact fun poll hpoll => absurd hpoll List.not_mem_nil
  | cons action later ih =>
    have hnext : (u.step c action).2.Attended ∨ (u.step c action).2.worker.ended = true := by
      rcases hu with hu | hended
      · by_cases hclose : action = .close
        · subst hclose
          right
          rw [step, Worker.close_eq hu.isOpen.running]
          rfl
        · exact .inl (hu.step hclose)
      · right
        rw [worker_step]
        cases u.request? action with
        | none => exact hended
        | some q => rwa [Option.elim_some, Worker.serve_of_ended hended]
    intro poll hpoll number
    rw [run, List.mem_append, Option.mem_toList] at hpoll
    rcases hpoll with hpoll | hpoll
    · rcases hu with hu | hended
      · exact hu.poll_ne hpoll number
      · exact poll_ne_of_ended hended hpoll number
    · exact ih hnext poll hpoll number

/-! ### The theorem -/

/-- Whatever is asked of a worker, no call concerns a cursor that has been closed before, every
cursor that has been handed back is in the table or has been closed, once, and what a reply shows is
of a cursor that has not been closed. With a close all cursors have been closed. Without one, the
count of open cursors is that of the cursors registered less those found exhausted or failed; a
cursor that comes with an update whose generated values nobody asked for is closed before the reply
and never gets into the table; and a worker that is dropped closes the cursors in the table or
leaves just these open, as it was told. On a connection in use the worker serves nothing but
requests, and no poll of any stream finds its cursor closed. -/
theorem cursor_lifecycle (c : Connection σ π κ) (session : σ) (closeOnDrop : Bool) :
    (∀ requests : List Request,
      let r := (Worker.start session closeOnDrop : Worker σ κ).serveWaiting c.engine requests
      let w := r.2
      Orderly w.journal ∧
      (∀ n, w.holds n + w.closes n = if n < w.handedBack then 1 else 0) ∧
      (∀ request n, (w.serve c.engine request).1.shown? request = some n →
        (w.serve c.engine request).2.closes n = 0) ∧
      (.close ∈ requests → ∀ n < w.handedBack, w.closes n = 1) ∧
      (.close ∉ requests →
        (∃ count, w.openCursors.1 = .ok count ∧
          count + r.1.countP Reply.finishes = r.1.countP Reply.registers) ∧
        (∀ x command s s' count cursor,
          c.engine.prepare x.sql x.parameters w.session = (.ok command, s) →
          c.engine.isQuery command = false →
          c.engine.update command x.keys s = (.ok ⟨count, some cursor⟩, s') →
          x.keys.requested = false →
          let r' := w.serve c.engine (.execute x)
          r'.1 = .executed (.ok (.update count)) ∧ r'.2.closes w.handedBack = 1 ∧
            ∀ later, (r'.2.serveWaiting c.engine later).2.holds w.handedBack = 0) ∧
        Orderly (w.drop c.engine).journal ∧
        ∀ n < w.handedBack, if closeOnDrop then (w.drop c.engine).closes n = 1
          else (w.drop c.engine).closes n ≤ 1 ∧
            ((w.drop c.engine).closes n = 0 ↔ n ∈ w.cursors.map Prod.fst))) ∧
    ∀ actions : List Action,
      let r := (Usage.start session closeOnDrop : Usage σ κ).run c actions
      (∃ requests,
        r.2.worker = ((Worker.start session closeOnDrop).serveWaiting c.engine requests).2 ∧
        (.close ∈ requests ↔ .close ∈ actions)) ∧
      ∀ poll ∈ r.1, ∀ number, poll.2 ≠ .item (.error (.cursorClosed number)) := by
  refine ⟨fun requests => ?_, fun actions => ⟨worker_run rfl actions, ?_⟩⟩
  · intro r w
    have hstart := Worker.Balanced.start (σ := σ) (κ := κ) session closeOnDrop
    have hw : w.Balanced := hstart.serveWaiting requests
    refine ⟨hw.orderly, hw.balance, fun request n hn => hw.closes_of_shown hn,
      fun hclose n hn => ?_, fun hclose => ?_⟩
    · exact hw.closes_of_empty (hstart.closes_of_close rfl hclose) hn
    · obtain ⟨hended, hdrop⟩ := Worker.running_serveWaiting (E := c.engine)
        (w := Worker.start session closeOnDrop) rfl hclose
      refine ⟨⟨w.cursors.length, ?_, ?_⟩, ?_, hw.drop.orderly, fun n hn => ?_⟩
      · rw [Worker.openCursors_eq hended]
      · have hlength := hstart.length_table (E := c.engine) rfl hclose
        rwa [show (Worker.start session closeOnDrop : Worker σ κ).cursors.length = 0 from rfl,
          Nat.zero_add] at hlength
      · intro x command s s' count cursor hprepare hquery hupdate hkeys
        exact hw.discarded hended hprepare hquery hupdate hkeys
      · cases closeOnDrop with
        | true =>
          rw [if_pos rfl]
          exact hw.closes_drop hended hdrop hn
        | false =>
          rw [if_neg Bool.false_ne_true]
          refine ⟨?_, hw.closes_drop_eq_zero hended hdrop hn⟩
          have hbalance := (hw.drop (E := c.engine)).balance n
          split_ifs at hbalance <;> omega
  · exact polls_ne (.inl (.start session closeOnDrop)) actions

end Usage

end SqlClient
