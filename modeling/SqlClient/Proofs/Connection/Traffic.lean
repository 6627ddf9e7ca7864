import Mathlib.Data.List.Enum
import SqlClient.Proofs.Connection.ExecutionOrder
import SqlClient.Proofs.Worker.Shutdown

/-!
# The traffic of a connection

Everyone who holds a connection sends requests to its worker, and the worker takes them in the order
in which they were sent. A run is any order in which requests are sent, the worker goes on and the
connection is given up by its last holder. Each request has its number, each answer tells the
request that it is for and the calls that were made for it, and the answers and what still waits are
all requests, one after the other.
-/

namespace SqlClient

variable {σ π κ : Type}

/-- What can happen. -/
inductive Event where
  /-- Somebody who holds the connection asks for something. -/
  | request (q : Request)
  /-- The worker goes on. -/
  | work
  /-- The last holder gives the connection up. -/
  | desert

/-- The answer to the request with this number, and the calls that were made for it, in order. -/
structure Answer (κ : Type) where
  number : Nat
  request : Request
  reply : Reply
  calls : List (JournalEntry κ)

/-- A worker and those who ask it. -/
structure Traffic (σ κ : Type) where
  worker : Worker σ κ
  /-- The requests that have been made, in order. -/
  made : List Request
  /-- The requests that have been sent and not taken, with their numbers. -/
  waiting : List (Request × Nat)
  /-- The answers in the order in which they were given. -/
  answers : List (Answer κ)
  /-- Whether requests can be sent. -/
  listening : Bool
  /-- Whether nobody holds the connection any more. -/
  deserted : Bool
  /-- The calls that were made when nobody was left to ask. -/
  farewell : List (JournalEntry κ)

namespace Traffic

def start (session : σ) (closeOnDrop : Bool) : Traffic σ κ :=
  ⟨.start session closeOnDrop, [], [], [], true, false, []⟩

/-- A request is sent, or it is refused because nobody listens. -/
def ask (t : Traffic σ κ) (q : Request) : Traffic σ κ :=
  if t.listening then
    { t with made := t.made ++ [q], waiting := t.waiting ++ [(q, t.made.length)] }
  else
    { t with
      made := t.made ++ [q]
      answers := t.answers ++ [⟨t.made.length, q, .refusal Worker.gone q, []⟩] }

/-- An ended worker lets go of what waits. -/
def hangUp (t : Traffic σ κ) : Traffic σ κ :=
  { t with
    waiting := []
    answers := t.answers ++ t.waiting.map fun p => ⟨p.2, p.1, .refusal p.1.abandonment p.1, []⟩
    listening := false }

section

variable (E : Engine σ π κ)

/-- The worker takes a request and serves it. -/
def take (t : Traffic σ κ) (q : Request) (number : Nat) (rest : List (Request × Nat)) :
    Traffic σ κ :=
  let r := t.worker.serve E q
  { t with
    worker := r.2
    waiting := rest
    answers := t.answers ++ [⟨number, q, r.1, r.2.callsSince t.worker⟩] }

/-- The worker finds that nobody is left to ask. -/
def leave (t : Traffic σ κ) : Traffic σ κ :=
  let w := t.worker.drop E
  { t with worker := w, farewell := w.callsSince t.worker }

/-- What the worker does next. -/
def work (t : Traffic σ κ) : Traffic σ κ :=
  if t.worker.ended then t.hangUp
  else
    match t.waiting with
    | (q, number) :: rest => t.take E q number rest
    | [] => if t.deserted then t.leave E else t

def step (t : Traffic σ κ) : Event → Traffic σ κ
  | .request q => if t.deserted then t else t.ask q
  | .work => t.work E
  | .desert => { t with deserted := true }

def run (t : Traffic σ κ) (events : List Event) : Traffic σ κ := events.foldl (step E) t

/-! ### One step -/

/-- What one step can be. -/
inductive Stepped (t : Traffic σ κ) : Traffic σ κ → Prop where
  | idle : Stepped t t
  | sent {q} : t.deserted = false → t.listening = true →
      Stepped t { t with made := t.made ++ [q], waiting := t.waiting ++ [(q, t.made.length)] }
  | refused {q} : t.deserted = false → t.listening = false →
      Stepped t { t with
        made := t.made ++ [q]
        answers := t.answers ++ [⟨t.made.length, q, .refusal Worker.gone q, []⟩] }
  | taken {q number rest} : t.worker.ended = false → t.waiting = (q, number) :: rest →
      Stepped t (t.take E q number rest)
  | hungUp : t.worker.ended = true → Stepped t t.hangUp
  | left : t.worker.ended = false → t.waiting = [] → t.deserted = true → Stepped t (t.leave E)
  | deserted : Stepped t { t with deserted := true }

theorem stepped (t : Traffic σ κ) (event : Event) : Stepped E t (t.step E event) := by
  cases event with
  | request q =>
    rw [step]
    split
    next => exact .idle
    next hdeserted =>
      rw [Bool.not_eq_true] at hdeserted
      rw [ask]
      split
      next hlistening => exact .sent hdeserted hlistening
      next hlistening =>
        rw [Bool.not_eq_true] at hlistening
        exact .refused hdeserted hlistening
  | work =>
    rw [step, work]
    split
    next hended => exact .hungUp hended
    next hended =>
      rw [Bool.not_eq_true] at hended
      split
      next hwaiting => exact .taken hended hwaiting
      next hwaiting =>
        split
        next hdeserted => exact .left hended hwaiting hdeserted
        next => exact .idle
  | desert => exact .deserted

end

/-! ### What every step keeps -/

theorem run_cons (E : Engine σ π κ) (t : Traffic σ κ) (event : Event) (events : List Event) :
    t.run E (event :: events) = (t.step E event).run E events := rfl

/-- What holds at first and after every step holds after a run. -/
theorem run_induction {E : Engine σ π κ} {P : Traffic σ κ → Prop} {t : Traffic σ κ} (h : P t)
    (hstep : ∀ t t', P t → Stepped E t t' → P t') (events : List Event) : P (t.run E events) := by
  induction events generalizing t with
  | nil => exact h
  | cons event events ih => exact ih (hstep t _ h (stepped E t event))

end Traffic

theorem Worker.reverse_journal_of_suffix {w w' : Worker σ κ} (h : w.journal <:+ w'.journal) :
    w'.journal.reverse = w.journal.reverse ++ w'.callsSince w := by
  obtain ⟨calls, hcalls⟩ := h
  rw [callsSince_eq calls.reverse (by rw [List.reverse_reverse, hcalls]), ← hcalls,
    List.reverse_append]

namespace Traffic

/-- The answers and what waits are all requests, in order, and the calls on record are those made
for the answers and those of the farewell. -/
structure Sound (t : Traffic σ κ) : Prop where
  tickets : t.answers.map (fun a => (a.request, a.number)) ++ t.waiting = t.made.zipIdx
  silent : t.listening = false → t.worker.ended = true ∧ t.waiting = []
  record : t.worker.journal.reverse = t.answers.flatMap Answer.calls ++ t.farewell
  farewell : t.worker.ended = false → t.farewell = []
  balanced : t.worker.Balanced

variable {E : Engine σ π κ} {t t' : Traffic σ κ}

theorem Sound.start (session : σ) (closeOnDrop : Bool) :
    (Traffic.start session closeOnDrop : Traffic σ κ).Sound :=
  ⟨rfl, nofun, rfl, fun _ => rfl, .start session closeOnDrop⟩

theorem zipIdx_concat (made : List Request) (q : Request) :
    (made ++ [q]).zipIdx = made.zipIdx ++ [(q, made.length)] := by
  rw [List.zipIdx_append, Nat.zero_add, List.zipIdx_singleton]

theorem Sound.step (ht : t.Sound) (hs : Stepped E t t') : t'.Sound := by
  cases hs with
  | idle => exact ht
  | sent _ hlistening =>
    refine ⟨?_, ?_, ht.record, ht.farewell, ht.balanced⟩
    · rw [zipIdx_concat, ← ht.tickets, List.append_assoc]
    · intro hsilent
      rw [show _ = t.listening from rfl, hlistening] at hsilent
      cases hsilent
  | @refused q _ hsilent =>
    obtain ⟨hended, hwaiting⟩ := ht.silent hsilent
    refine ⟨?_, ht.silent, ?_, ht.farewell, ht.balanced⟩
    · have htickets := ht.tickets
      rw [hwaiting, List.append_nil] at htickets
      simp [hwaiting, htickets, zipIdx_concat]
    · rw [ht.record]
      simp
  | @taken q number rest hended hwaiting =>
    refine ⟨?_, ?_, ?_, fun _ => ht.farewell hended, ht.balanced.serve q⟩
    · refine Eq.trans ?_ ht.tickets
      simp [take, hwaiting]
    · intro hsilent
      rw [(ht.silent hsilent).1] at hended
      cases hended
    · have hrecord := ht.record
      rw [ht.farewell hended, List.append_nil] at hrecord
      have hcalls := Worker.reverse_journal_of_suffix (Worker.journal_suffix_serve (E := E)
        (w := t.worker) q)
      rw [hrecord] at hcalls
      simp [take, ht.farewell hended, hcalls]
  | hungUp hended =>
    refine ⟨?_, fun _ => ⟨hended, rfl⟩, ?_, ht.farewell, ht.balanced⟩
    · refine Eq.trans ?_ ht.tickets
      simp [hangUp, Function.comp_def]
    · have hnone : (t.waiting.map fun p => (⟨p.2, p.1, .refusal p.1.abandonment p.1, []⟩ :
          Answer κ)).flatMap Answer.calls = [] := by
        rw [List.flatMap_map]
        exact List.flatMap_eq_nil_iff.mpr fun _ _ => rfl
      rw [hangUp, List.flatMap_append, hnone, List.append_nil]
      exact ht.record
  | left hended hwaiting _ =>
    refine ⟨ht.tickets, ?_, ?_, ?_, ht.balanced.drop⟩
    · intro hsilent
      rw [(ht.silent hsilent).1] at hended
      cases hended
    · have hrecord := ht.record
      rw [ht.farewell hended, List.append_nil] at hrecord
      rw [leave, Worker.reverse_journal_of_suffix (t.worker.journal_suffix_drop E), hrecord]
    · intro hrunning
      rw [leave, Worker.ended_drop E t.worker] at hrunning
      cases hrunning
  | deserted => exact ⟨ht.tickets, ht.silent, ht.record, ht.farewell, ht.balanced⟩

theorem Sound.run (ht : t.Sound) (events : List Event) : (t.run E events).Sound :=
  run_induction ht (fun _ _ => Sound.step) events

/-- The answer to a request is one to a request that was made. -/
theorem Sound.made_of_answer (ht : t.Sound) {a : Answer κ} (ha : a ∈ t.answers) :
    t.made[a.number]? = some a.request := by
  have hmem : (a.request, a.number) ∈ t.made.zipIdx := by
    rw [← ht.tickets]
    exact List.mem_append_left _ (List.mem_map_of_mem ha)
  exact List.mem_zipIdx_iff_getElem?.mp hmem

/-- Answers are given in the order of the requests. -/
theorem Sound.number_eq (ht : t.Sound) {i : Nat} {a : Answer κ} (h : t.answers[i]? = some a) :
    a.number = i := by
  have hlt : i < t.answers.length := (List.getElem?_eq_some_iff.mp h).1
  have hticket : t.made.zipIdx[i]? = some (a.request, a.number) := by
    rw [← ht.tickets, List.getElem?_append_left (by rwa [List.length_map]), List.getElem?_map, h]
    rfl
  rw [List.getElem?_zipIdx] at hticket
  obtain ⟨q, -, hq⟩ := Option.map_eq_some_iff.mp hticket
  have hnumber : 0 + i = a.number := congrArg Prod.snd hq
  rw [← hnumber, Nat.zero_add]

/-! ### The worker comes to rest -/

/-- A worker that goes on neither asks for anything nor gives the connection up. -/
theorem run_work_frame (E : Engine σ π κ) (t : Traffic σ κ) (k : Nat) :
    (t.run E (.replicate k .work)).made = t.made ∧
      (t.run E (.replicate k .work)).deserted = t.deserted := by
  induction k generalizing t with
  | zero => exact ⟨rfl, rfl⟩
  | succ k ih =>
    have hstep : (t.work E).made = t.made ∧ (t.work E).deserted = t.deserted := by
      rw [work]
      split
      · exact ⟨rfl, rfl⟩
      · split
        · exact ⟨rfl, rfl⟩
        · split <;> exact ⟨rfl, rfl⟩
    obtain ⟨hmade, hdeserted⟩ := ih (t.work E)
    exact ⟨hmade.trans hstep.1, hdeserted.trans hstep.2⟩

/-- Nothing waits, and if nobody is left, the worker has ended. -/
def AtRest (t : Traffic σ κ) : Prop :=
  t.waiting = [] ∧ (t.deserted = true → t.worker.ended = true)

/-- How many steps the worker has to make at most. -/
def toDo (t : Traffic σ κ) : Nat := t.waiting.length + if t.worker.ended then 0 else 1

theorem toDo_le (t : Traffic σ κ) : t.toDo ≤ t.waiting.length + 1 := by
  rw [toDo]
  split_ifs <;> omega

theorem AtRest.work (h : t.AtRest) : (t.work E).AtRest := by
  obtain ⟨hwaiting, hdeserted⟩ := h
  rw [Traffic.work]
  split
  next hended => exact ⟨rfl, fun _ => hended⟩
  next hended =>
    rw [hwaiting]
    dsimp only
    rw [if_neg fun h => hended (hdeserted h)]
    exact ⟨hwaiting, hdeserted⟩

/-- Every step brings the worker nearer to its rest. -/
theorem atRest_or_toDo_lt (E : Engine σ π κ) (t : Traffic σ κ) :
    t.AtRest ∨ (t.work E).toDo < t.toDo := by
  rw [work]
  split
  next hended =>
    cases hwaiting : t.waiting with
    | nil => exact .inl ⟨hwaiting, fun _ => hended⟩
    | cons p rest =>
      right
      simp [toDo, hangUp, hended, hwaiting]
  next hended =>
    rw [Bool.not_eq_true] at hended
    split
    next q number rest hwaiting =>
      right
      have hle := toDo_le (t.take E q number rest)
      have htoDo : t.toDo = rest.length + 2 := by simp [toDo, hwaiting, hended]
      rw [show (t.take E q number rest).waiting = rest from rfl] at hle
      omega
    next hwaiting =>
      split
      next =>
        right
        simp [toDo, leave, Worker.ended_drop, hwaiting, hended]
      next hdeserted => exact .inl ⟨hwaiting, fun h => absurd h hdeserted⟩

/-- A worker that goes on often enough comes to rest. -/
theorem atRest_run {k : Nat} (h : t.AtRest ∨ t.toDo ≤ k) :
    (t.run E (.replicate k .work)).AtRest := by
  induction k generalizing t with
  | zero =>
    rcases h with h | h
    · exact h
    · rw [toDo] at h
      split at h
      next hended => exact ⟨List.length_eq_zero_iff.mp (Nat.le_zero.mp h), fun _ => hended⟩
      next => omega
  | succ k ih =>
    refine ih ?_
    rcases h with h | h
    · exact .inl h.work
    · rcases atRest_or_toDo_lt E t with hrest | hlt
      · exact .inl hrest.work
      · rw [step]
        exact .inr (by omega)

theorem atRest_run_of_lt {k : Nat} (h : t.waiting.length < k) :
    (t.run E (.replicate k .work)).AtRest :=
  atRest_run (.inr (Nat.le_trans t.toDo_le h))

/-! ### Requests that are all sent first -/

theorem run_replicate_of_eq {k : Nat} (h : t.work E = t) : t.run E (.replicate k .work) = t := by
  induction k with
  | zero => rfl
  | succ k ih =>
    rw [List.replicate_succ, run_cons, step, h, ih]

/-- A worker that goes on serves what waits, up to the first close, as it serves a queue. -/
theorem run_work_eq_serveWaiting (hended : t.worker.ended = false) (hheld : t.deserted = false)
    {k : Nat} (hk : t.waiting.length < k) :
    (t.run E (.replicate k .work)).answers.map Answer.reply =
        t.answers.map Answer.reply ++ (t.worker.serveWaiting E (t.waiting.map Prod.fst)).1 ∧
      (t.run E (.replicate k .work)).worker =
        (t.worker.serveWaiting E (t.waiting.map Prod.fst)).2 := by
  induction hwaiting : t.waiting generalizing t k with
  | nil =>
    have hidle : t.work E = t := by simp [work, hended, hwaiting, hheld]
    rw [run_replicate_of_eq hidle]
    simp [Worker.serveWaiting]
  | cons p rest ih =>
    obtain ⟨q, number⟩ := p
    rw [hwaiting, List.length_cons] at hk
    have htake : t.work E = t.take E q number rest := by simp [work, hended, hwaiting]
    cases k with
    | zero => omega
    | succ k =>
      rw [List.replicate_succ, run_cons, step, htake]
      by_cases hclose : q = .close
      · subst hclose
        have hstopped : (t.take E .close number rest).worker.ended = true := by
          rw [take, Worker.serve, Worker.close_eq hended]
          rfl
        generalize hu : t.take E .close number rest = u at hstopped
        have hhangUp : u.work E = u.hangUp := by simp [work, hstopped]
        have hidle : u.hangUp.work E = u.hangUp := by simp [work, hangUp, hstopped]
        cases k with
        | zero => omega
        | succ k =>
          rw [List.replicate_succ, run_cons, step, hhangUp, run_replicate_of_eq hidle, ← hu]
          simp [hangUp, take, Worker.serveWaiting, Worker.abandon]
      · have hnext := ih (t := t.take E q number rest) (Worker.ended_serve E hended hclose) hheld
          (k := k) (by exact Nat.lt_of_succ_lt_succ hk) rfl
        rw [hnext.1, hnext.2, List.map_cons, Worker.serveWaiting_cons hclose]
        simp [take]

end Traffic

/-! ### Streams that ask -/

namespace RowStream

variable (c : Connection σ π κ) (s : RowStream) (w : Worker σ κ)

/-- What the stream makes of an answer. -/
def receive : Except Error (Option (List Value)) → Poll (Except Error Row) × RowStream
  | .ok (some values) => (.item (.ok ⟨values, s.metadata, c.conversions⟩), s)
  | .ok none => (.ended, { s with done := true })
  | .error e => (.item (.error e), { s with done := true })

/-- A stream that has not ended asks for a row for each poll, and one that has ended asks for
nothing. -/
theorem poll_eq : (source c).poll s w =
    if s.done then (.ended, s, w)
    else
      let r := w.fetch c.engine s.cursor
      ((s.receive c r.1).1, (s.receive c r.1).2, r.2) := by
  simp only [source]
  split
  next => rfl
  next => rcases w.fetch c.engine s.cursor with ⟨e | _ | values, w'⟩ <;> rfl

end RowStream

namespace ResultStream

variable (c : Connection σ π κ) (s : ResultStream) (w : Worker σ κ)

/-- What the stream asks for next. -/
def next? : Option Execution :=
  match s.failed, s.jobs with
  | false, job :: _ => some ⟨job.sql, job.parameters, s.keys, c.maxRows⟩
  | _, _ => none

/-- What the stream makes of an answer. -/
def receive : Except Error Outcome → Poll (Except Error QueryResult) × ResultStream
  | .ok outcome =>
    (.item (.ok (.ofOutcome c.conversions.registry outcome)), { s with jobs := s.jobs.tail })
  | .error e => (.item (.error e), { s with jobs := s.jobs.tail, failed := true })

/-- A stream with jobs left asks for one execution for each poll. -/
theorem poll_eq : (source c).poll s w =
    match s.next? c with
    | none => (.ended, s, w)
    | some x =>
      let r := w.execute c.engine x
      ((s.receive c r.1).1, (s.receive c r.1).2, r.2) := by
  obtain ⟨jobs, keys, failed⟩ := s
  simp only [source, next?]
  cases failed with
  | true => rfl
  | false =>
    cases jobs with
    | nil => rfl
    | cons job rest =>
      dsimp only
      rcases w.execute c.engine ⟨job.sql, job.parameters, keys, c.maxRows⟩ with ⟨e | outcome, w'⟩
      · rfl
      · rfl

end ResultStream

/-- If a stream has asked, it passes the error on as an item, and then it has ended and asks for
nothing more. -/
structure Answer.PassedOn (c : Connection σ π κ) (a : Answer κ) (e : Error) : Prop where
  rows : ∀ s : RowStream, a.request = .fetch s.cursor → a.reply = .fetched (.error e) ∧
    (s.receive c (.error e)).1 = .item (.error e) ∧
    ∀ w, (RowStream.source c).poll (s.receive c (.error e)).2 w =
      (.ended, (s.receive c (.error e)).2, w)
  results : ∀ (s : ResultStream) (x : Execution), s.next? c = some x → a.request = .execute x →
    a.reply = .executed (.error e) ∧ (s.receive c (.error e)).1 = .item (.error e) ∧
    ∀ w, (ResultStream.source c).poll (s.receive c (.error e)).2 w =
      (.ended, (s.receive c (.error e)).2, w)

theorem Answer.passedOn_of_refusal (c : Connection σ π κ) {a : Answer κ} {e : Error}
    (h : a.reply = .refusal e a.request) : a.PassedOn c e := by
  constructor
  · intro s hs
    rw [h, hs]
    refine ⟨rfl, rfl, fun w => ?_⟩
    rw [RowStream.poll_eq]
    rfl
  · intro s x _ hx
    rw [h, hx]
    refine ⟨rfl, rfl, fun w => ?_⟩
    rw [ResultStream.poll_eq]
    rfl

end SqlClient
