import SqlClient.Proofs.Connection.Traffic
import SqlClient.Proofs.Worker.Shutdown

/-!
# Where failures go

Any call to the engine can fail. What fails for a request is what the request gets, as the engine
reported it, unless it is the close of a cursor whose step has failed before, of generated values
that nobody asked for, or of a cursor that is left over at the end. Those failures, and the ones
that come after the last holder has given the connection up, are on record and reach nobody.
-/

namespace SqlClient

variable {σ π κ : Type}

@[simp] theorem Reply.error?_refusal (e : Error) (q : Request) :
    (Reply.refusal e q).error? = some e := by
  cases q <;> rfl

namespace Answer

variable (E : Engine σ π κ) (a : Answer κ)

/-- The calls for an answer whose failure reaches nobody. -/
inductive SetAside : JournalEntry κ → Prop
  /-- A step of the cursor has failed, and its failure is the answer. -/
  | failedCursor {n : Nat} {cursor : κ} {failure : Option EngineError} {step : JournalEntry κ}
      {e : EngineError} : a.request = .fetch n → step ∈ a.calls →
      step.call = .hasNext n ∨ step.call = .advance n → step.failure = some e →
      a.reply = .fetched (.error e) → SetAside ⟨.closeCursor n cursor, failure⟩
  /-- Nobody asked for the generated values, and the answer is the count of the update. -/
  | unrequestedKeys {x : Execution} {n : Nat} {cursor : κ} {failure : Option EngineError}
      {command : π} {s s' s'' : σ} {count : Nat} : a.request = .execute x →
      x.keys.requested = false → E.prepare x.sql x.parameters s = (.ok command, s') →
      E.update command x.keys s' = (.ok ⟨count, some cursor⟩, s'') →
      a.reply = .executed (.ok (.update count)) → SetAside ⟨.closeCursor n cursor, failure⟩
  /-- The session is closed all the same, and the answer tells how. -/
  | leftover {n : Nat} {cursor : κ} {failure : Option EngineError}
      {closed : Except EngineError Unit} : a.request = .close →
      a.calls.getLast? = some ⟨.closeSession, failure? closed⟩ →
      a.reply = .closed (closed.mapError .engine) → SetAside ⟨.closeCursor n cursor, failure⟩

/-- All failures among these calls reach nobody. -/
def AllSetAside (calls : List (JournalEntry κ)) : Prop :=
  ∀ x ∈ calls, x.failure ≠ none → a.SetAside E x

/-- What has become of the failures among the calls for an answer. -/
inductive Settled : Prop
  /-- No call was made. An error says that the worker or the cursor is gone. -/
  | uncalled : a.calls = [] → (∀ e, a.reply.error? = some e →
      e = .engine Worker.gone ∨ e = .engine a.request.abandonment ∨
        ∃ n, a.request = .fetch n ∧ e = .cursorClosed n) → Settled
  /-- The answer is no error. -/
  | succeeded : a.reply.error? = none → a.AllSetAside E a.calls → Settled
  /-- One failure is the answer, and all others reach nobody. -/
  | failed (before after : List (JournalEntry κ)) {call : EngineCall κ} {e : EngineError} :
      a.calls = before ++ ⟨call, some e⟩ :: after → ¬a.SetAside E ⟨call, some e⟩ →
      a.AllSetAside E (before ++ after) → a.reply = .refusal (.engine e) a.request → Settled

variable {E a}

/-- A call that closes no cursor fails for somebody. -/
theorem not_setAside {call : EngineCall κ} {failure : Option EngineError}
    (h : ∀ n cursor, call ≠ .closeCursor n cursor) : ¬a.SetAside E ⟨call, failure⟩ := by
  intro haside
  cases haside with
  | failedCursor | unrequestedKeys | leftover => exact h _ _ rfl

theorem allSetAside_nil : a.AllSetAside E [] := List.forall_mem_nil _

theorem allSetAside_cons {call : EngineCall κ} {calls : List (JournalEntry κ)}
    (h : a.AllSetAside E calls) : a.AllSetAside E (⟨call, none⟩ :: calls) :=
  List.forall_mem_cons.mpr ⟨fun hfailed => absurd rfl hfailed, h⟩

theorem allSetAside_singleton {x : JournalEntry κ} (h : a.SetAside E x) : a.AllSetAside E [x] :=
  List.forall_mem_singleton.mpr fun _ => h

/-- A failure is set aside, or it is the answer. -/
theorem Settled.setAside_or (h : a.Settled E) {x : JournalEntry κ} (hx : x ∈ a.calls)
    {e : EngineError} (he : x.failure = some e) :
    a.SetAside E x ∨ a.reply = .refusal (.engine e) a.request := by
  have hfailed : x.failure ≠ none := by simp [he]
  cases h with
  | uncalled hcalls =>
    rw [hcalls] at hx
    cases hx
  | succeeded _ haside => exact .inl (haside x hx hfailed)
  | failed before after hcalls _ haside hreply =>
    rw [hcalls] at hx
    rcases List.mem_append.mp hx with hx | hx
    · exact .inl (haside x (List.mem_append_left _ hx) hfailed)
    rcases List.mem_cons.mp hx with rfl | hx
    · rw [← Option.some.inj he]
      exact .inr hreply
    · exact .inl (haside x (List.mem_append_right _ hx) hfailed)

end Answer

/-- Nothing, or the calls that close what is left over and then the session. -/
def Farewell (calls : List (JournalEntry κ)) : Prop :=
  calls = [] ∨ ∃ leftovers failure, calls = leftovers ++ [⟨.closeSession, failure⟩] ∧
    ∀ x ∈ leftovers, ∃ n cursor, x.call = .closeCursor n cursor

/-! ### One request -/

namespace Worker

variable {E : Engine σ π κ} {w : Worker σ κ}

open Answer

theorem Executed.settled {x : Execution} {r : Except Error Outcome × Worker σ κ}
    (hr : Executed E x w r) (number : Nat) :
    Settled E ⟨number, .execute x, .executed r.1, r.2.callsSince w⟩ := by
  cases hr with
  | prepareFailed _ =>
    rw [callsSince_eq [_] rfl]
    exact .failed [] [] rfl (not_setAside nofun) allSetAside_nil rfl
  | queryFailed _ _ _ | updateFailed _ _ _ =>
    rw [callsSince_eq [_, _] rfl]
    exact .failed [_] [] rfl (not_setAside nofun) (allSetAside_cons allSetAside_nil) rfl
  | rows _ _ _ | update _ _ _ | updateWithKeys _ _ _ _ =>
    rw [callsSince_eq [_, _] rfl]
    exact .succeeded rfl (allSetAside_cons (allSetAside_cons allSetAside_nil))
  | updateDiscarding hprepare _ hupdate hkeys _ =>
    rw [callsSince_eq [_, _, _] rfl]
    refine .succeeded rfl (allSetAside_cons (allSetAside_cons (allSetAside_singleton ?_)))
    exact .unrequestedKeys rfl hkeys hprepare hupdate rfl

theorem Fetched.settled {n : Nat} {cursor : κ}
    {r : Except Error (Option (List Value)) × Worker σ κ} (hr : Fetched E n cursor w r)
    (number : Nat) : Settled E ⟨number, .fetch n, .fetched r.1, r.2.callsSince w⟩ := by
  cases hr with
  | hasNextFailed _ _ =>
    rw [callsSince_eq [_, _] rfl]
    refine .failed [] [_] rfl (not_setAside nofun) (allSetAside_singleton ?_) rfl
    exact .failedCursor rfl List.mem_cons_self (.inl rfl) rfl rfl
  | exhausted _ _ =>
    rw [callsSince_eq [_, _] rfl]
    exact .succeeded rfl (allSetAside_cons (allSetAside_cons allSetAside_nil))
  | closeFailed _ _ =>
    rw [callsSince_eq [_, _] rfl]
    refine .failed [_] [] rfl ?_ (allSetAside_cons allSetAside_nil) rfl
    -- no step has failed before this close
    intro haside
    cases haside with
    | failedCursor _ hmem hstep hfailure _ =>
      rcases List.mem_pair.mp hmem with rfl | rfl
      · cases hfailure
      · rcases hstep with hstep | hstep <;> cases hstep
    | unrequestedKeys hrequest => cases hrequest
    | leftover hrequest => cases hrequest
  | advanceFailed _ _ _ =>
    rw [callsSince_eq [_, _, _] rfl]
    refine .failed [_] [_] rfl (not_setAside nofun)
      (allSetAside_cons (allSetAside_singleton ?_)) rfl
    exact .failedCursor rfl (List.mem_cons_of_mem _ List.mem_cons_self) (.inr rfl) rfl rfl
  | row _ _ =>
    rw [callsSince_eq [_, _] rfl]
    exact .succeeded rfl (allSetAside_cons (allSetAside_cons allSetAside_nil))

theorem Stopped.callsSince_eq {leftovers : List (JournalEntry κ)}
    {r : Except EngineError Unit × Worker σ κ} (hr : w.Stopped leftovers r) :
    r.2.callsSince w = leftovers ++ [⟨.closeSession, failure? r.1⟩] := by
  refine Worker.callsSince_eq _ ?_
  rw [List.reverse_append]
  exact hr.journal_eq

theorem Stopped.settled {leftovers : List (JournalEntry κ)}
    {r : Except EngineError Unit × Worker σ κ} (hr : w.Stopped leftovers r) (number : Nat) :
    Settled E ⟨number, .close, .closed (r.1.mapError .engine), r.2.callsSince w⟩ := by
  obtain ⟨closed, w'⟩ := r
  rw [hr.callsSince_eq]
  have hleftovers : AllSetAside E ⟨number, .close, .closed (closed.mapError .engine),
      leftovers ++ [⟨.closeSession, failure? closed⟩]⟩ leftovers := by
    rintro ⟨call, failure⟩ hx _
    obtain ⟨n, cursor, rfl⟩ := hr.closeCursor_of_mem hx
    exact .leftover rfl (List.getLast?_concat) rfl
  cases closed with
  | error e =>
    refine .failed leftovers [] rfl (not_setAside nofun) ?_ rfl
    rwa [List.append_nil]
  | ok _ =>
    exact .succeeded rfl
      (List.forall_mem_append.mpr ⟨hleftovers, allSetAside_cons allSetAside_nil⟩)

/-- Whatever a running worker does for a request, its failures are accounted for. -/
theorem settled_serve (h : w.ended = false) (q : Request) (number : Nat) :
    Settled E ⟨number, q, (w.serve E q).1, (w.serve E q).2.callsSince w⟩ := by
  cases q with
  | execute x => exact (executed E h x).settled number
  | fetch n =>
    cases hlookup : w.cursors.lookup n with
    | some cursor => exact (fetched E h hlookup).settled number
    | none =>
      rw [serve, fetch_of_lookup_eq_none h hlookup]
      refine .uncalled (callsSince_eq [] rfl) fun e he => .inr (.inr ⟨n, rfl, ?_⟩)
      exact (Option.some.inj he).symm
  | openCursors =>
    rw [serve, openCursors_eq h]
    refine .uncalled (callsSince_eq [] rfl) fun e he => ?_
    cases he
  | close =>
    obtain ⟨leftovers, hstopped⟩ := w.stopped_shutdown E
    rw [serve, close_eq_shutdown h]
    exact hstopped.settled number

theorem farewell_drop (E : Engine σ π κ) (w : Worker σ κ) :
    Farewell ((w.drop E).callsSince w) := by
  rw [drop]
  split_ifs
  · exact .inl (callsSince_eq [] rfl)
  · obtain ⟨leftovers, hstopped⟩ := w.stopped_shutdown E
    exact .inr ⟨leftovers, _, hstopped.callsSince_eq, fun _ => hstopped.closeCursor_of_mem⟩
  · exact .inl (callsSince_eq [] rfl)

end Worker

/-! ### Every request -/

namespace Traffic

variable {E : Engine σ π κ} {t t' : Traffic σ κ}

/-- The failures of all calls so far are accounted for. -/
structure Accounted (E : Engine σ π κ) (t : Traffic σ κ) : Prop where
  answers : ∀ a ∈ t.answers, a.Settled E
  farewell : Farewell t.farewell

theorem Accounted.start (session : σ) (closeOnDrop : Bool) :
    (Traffic.start session closeOnDrop).Accounted E :=
  ⟨List.forall_mem_nil _, .inl rfl⟩

theorem Accounted.step (h : t.Accounted E) (hs : Stepped E t t') : t'.Accounted E := by
  cases hs with
  | idle | sent | deserted => exact ⟨h.answers, h.farewell⟩
  | refused =>
    refine ⟨List.forall_mem_append.mpr ⟨h.answers, List.forall_mem_singleton.mpr ?_⟩, h.farewell⟩
    refine .uncalled rfl fun e he => .inl ?_
    rw [Reply.error?_refusal] at he
    exact (Option.some.inj he).symm
  | @taken q number _ hended _ =>
    refine ⟨List.forall_mem_append.mpr ⟨h.answers, List.forall_mem_singleton.mpr ?_⟩, h.farewell⟩
    exact Worker.settled_serve hended q number
  | hungUp =>
    refine ⟨List.forall_mem_append.mpr ⟨h.answers, List.forall_mem_map.mpr fun p _ => ?_⟩,
      h.farewell⟩
    refine .uncalled rfl fun e he => .inr (.inl ?_)
    rw [Reply.error?_refusal] at he
    exact (Option.some.inj he).symm
  | left => exact ⟨h.answers, t.worker.farewell_drop E⟩

theorem Accounted.run (h : t.Accounted E) (events : List Event) : (t.run E events).Accounted E :=
  run_induction h (fun _ _ => Accounted.step) events

end Traffic

/-! ### Cursors and streams that have no part in it -/

/-- The cursor can be read: a stream over it gets what the engine makes of it. -/
structure Worker.Usable (c : Connection σ π κ) (w : Worker σ κ) (n : Nat) (cursor : κ) : Prop where
  running : w.ended = false
  lookup_eq : w.cursors.lookup n = some cursor
  poll_eq : ∀ s : RowStream, s.cursor = n → s.done = false →
    ∃ r, Fetched c.engine n cursor w r ∧
      (RowStream.source c).poll s w = ((s.receive c r.1).1, (s.receive c r.1).2, r.2)

theorem Worker.usable {c : Connection σ π κ} {w : Worker σ κ} {n : Nat} {cursor : κ}
    (h : w.ended = false) (hlookup : w.cursors.lookup n = some cursor) : w.Usable c n cursor := by
  refine ⟨h, hlookup, fun s hs hdone => ⟨w.fetch c.engine n, fetched c.engine h hlookup, ?_⟩⟩
  rw [RowStream.poll_eq, hdone, if_neg Bool.false_ne_true, hs]

/-- A request leaves alone all cursors but the one that it is about. -/
theorem Worker.Served.lookup_eq {E : Engine σ π κ} {w : Worker σ κ} {q : Request}
    {r : Reply × Worker σ κ} (hs : Served E w q r) (hw : w.Balanced) (hclose : q ≠ .close) {n : Nat}
    {cursor : κ} (hlookup : w.cursors.lookup n = some cursor) (hq : q ≠ .fetch n) :
    r.2.cursors.lookup n = some cursor := by
  have hlt : n < w.handedBack := hw.lt_of_holds (hw.holds_of_lookup hlookup)
  cases hs with
  | execute hr => exact (hr.untouched hlt).lookup_eq.trans hlookup
  | fetch _ hf => exact (hf.untouched fun hn => hq (hn ▸ rfl)).lookup_eq.trans hlookup
  | absent | openCursors => exact hlookup
  | close => exact absurd rfl hclose

/-- A stream with jobs left gets what the engine makes of the next. -/
theorem ResultStream.poll_of_running {c : Connection σ π κ} {w : Worker σ κ}
    (h : w.ended = false) {s : ResultStream} {x : Execution} (hx : s.next? c = some x) :
    ∃ r, Worker.Executed c.engine x w r ∧
      (ResultStream.source c).poll s w = ((s.receive c r.1).1, (s.receive c r.1).2, r.2) := by
  refine ⟨w.execute c.engine x, Worker.executed c.engine h x, ?_⟩
  rw [poll_eq, hx]

/-! ### The theorem -/

/-- The failure is the answer, with its state, code and message; a stream that has asked passes it
on once. -/
structure Answer.Delivered (c : Connection σ π κ) (a : Answer κ) (e : EngineError) : Prop where
  reply_eq : a.reply = .refusal (.engine e) a.request
  kind_eq : (Error.engine e).kind = .engineFailure
  failureKind_eq : (Error.engine e).failureKind? = some (.ofSqlState e.sqlState)
  message_eq : (Error.engine e).message = e.display
  passedOn : a.PassedOn c (.engine e)

/-- In whatever order requests are made and the worker goes on, and whichever calls fail, every call
was made for one answer or for the farewell, and the answers are to one request each. Each failure
of a call is set aside, or it is the answer, as the engine reported it; an answer tells one failure
at most, and an error that is no failure of a call says that the worker or the cursor is gone. In
the farewell there are only the calls that close what is left. While the worker runs, a request
leaves all other cursors as they were, and they, and the streams of results, go on with what the
engine makes of them. -/
theorem Traffic.failure_accounting (c : Connection σ π κ) (session : σ) (closeOnDrop : Bool)
    (events : List Event) :
    let t := (Traffic.start session closeOnDrop).run c.engine events
    t.answers.map (fun a => (a.request, a.number)) ++ t.waiting = t.made.zipIdx ∧
    t.worker.journal.reverse = t.answers.flatMap Answer.calls ++ t.farewell ∧
    (∀ a ∈ t.answers, a.Settled c.engine ∧ ∀ x ∈ a.calls, ∀ e, x.failure = some e →
      a.SetAside c.engine x ∨ a.Delivered c e) ∧
    Farewell t.farewell ∧
    (t.worker.ended = false → ∀ q ≠ .close,
      let w := (t.worker.serve c.engine q).2
      (∀ n cursor, t.worker.cursors.lookup n = some cursor → q ≠ .fetch n →
        w.Usable c n cursor) ∧
      ∀ (s : ResultStream) (x : Execution), s.next? c = some x →
        ∃ r, Worker.Executed c.engine x w r ∧
          (ResultStream.source c).poll s w = ((s.receive c r.1).1, (s.receive c r.1).2, r.2)) := by
  intro t
  have hsound : t.Sound := (Sound.start session closeOnDrop).run events
  have haccounted : t.Accounted c.engine := (Accounted.start session closeOnDrop).run events
  refine ⟨hsound.tickets, hsound.record, ?_, haccounted.farewell, ?_⟩
  · intro a ha
    have hsettled := haccounted.answers a ha
    refine ⟨hsettled, ?_⟩
    intro x hx e he
    rcases hsettled.setAside_or hx he with haside | hreply
    · exact .inl haside
    · exact .inr ⟨hreply, rfl, rfl, rfl, a.passedOn_of_refusal c hreply⟩
  · intro hrunning q hclose w
    have hstill : w.ended = false := Worker.ended_serve c.engine hrunning hclose
    constructor
    · intro n cursor hlookup hq
      have hserved := Worker.served c.engine hrunning q
      exact Worker.usable hstill (hserved.lookup_eq hsound.balanced hclose hlookup hq)
    · intro s x hx
      exact ResultStream.poll_of_running hstill hx

/-- Of two cursors the first fails at its first row, and then fails to close. -/
theorem Traffic.failure_accounting_of_two :
    let broken := EngineError.general "broken"
    let stuck := EngineError.general "stuck"
    let cursor := Scripted.Cursor.ofScript ⟨[], [], none, some ⟨0, broken⟩, some stuck, false⟩
    let session : Scripted.Session := ⟨[], .rows cursor.script, ⟨none⟩, none, false⟩
    let c : Connection _ _ _ := ⟨Scripted.engine, ⟨.standard false, ⟨none⟩⟩, 0⟩
    let query := Event.request (.execute ⟨"q", [], .none, 0⟩)
    let opening := [query, query, .work, .work]
    let t := (Traffic.start session true).run c.engine opening
    let u := (Traffic.start session true).run c.engine (opening ++ [.request (.fetch 0), .work])
    let step : JournalEntry _ := ⟨.hasNext 0, some broken⟩
    let close : JournalEntry _ := ⟨.closeCursor 0 cursor, some stuck⟩
    let a : Answer _ := ⟨2, .fetch 0, .fetched (.error (.engine broken)), [step, close]⟩
    a ∈ u.answers ∧ a.Settled c.engine ∧ a.Delivered c broken ∧ a.SetAside c.engine close ∧
      (t.worker.serve c.engine (.fetch 0)).2.Usable c 1 cursor := by
  intro broken stuck cursor session c query opening t u step close a
  let opened (number : Nat) : Answer Scripted.Cursor :=
    ⟨number, .execute ⟨"q", [], .none, 0⟩, .executed (.ok (.rows number [])),
      [⟨.prepare "q" [], none⟩, ⟨.query "q" [] 0, none⟩]⟩
  have hanswers : u.answers = [opened 0, opened 1, a] := by rfl
  have ha : a ∈ u.answers := by simp [hanswers]
  obtain ⟨-, -, hsettled, -⟩ := Traffic.failure_accounting c session true
    (opening ++ [.request (.fetch 0), .work])
  obtain ⟨-, -, -, -, husable⟩ := Traffic.failure_accounting c session true opening
  obtain ⟨hsettled, hcalls⟩ := hsettled a ha
  have hrunning : t.worker.ended = false := by rfl
  have hcursors : t.worker.cursors = [(0, cursor), (1, cursor)] := by rfl
  have hlookup : t.worker.cursors.lookup 1 = some cursor := by
    rw [hcursors]
    rfl
  refine ⟨ha, hsettled, ?_, ?_, (husable hrunning (.fetch 0) ?_).1 1 cursor hlookup ?_⟩
  · refine (hcalls step (.head _) broken rfl).resolve_left (Answer.not_setAside ?_)
    intro n cursor hcall
    cases hcall
  · refine (hcalls close (.tail _ (.head _)) stuck rfl).resolve_right ?_
    intro hdelivered
    have herror := congrArg Reply.error? hdelivered.reply_eq
    rw [Reply.error?_refusal] at herror
    have hsame : Error.engine (.general "broken") = .engine (.general "stuck") :=
      Option.some.inj herror
    exact absurd hsame (by decide)
  · intro hclose
    cases hclose
  · intro hsame
    cases hsame

end SqlClient
