import Mathlib.Data.List.Infix
import Mathlib.Data.List.Nodup
import SqlClient.Proofs.Worker.Cursors
import SqlClient.Worker.Queue

/-!
# From handing back to closing

Every cursor that the engine has handed back is in the table or has been closed, never both, and
never closed twice. Whatever a request does to the table it does to the journal as well, so that the
two always balance.
-/

namespace SqlClient

/-- Whether the entry is of a cursor that was closed, or that failed to close. -/
def JournalEntry.closes {κ : Type} (entry : JournalEntry κ) (number : Nat) : Bool :=
  match entry.call with
  | .closeCursor m _ => m == number
  | _ => false

/-- No call concerns a cursor that has been closed before. The latest call comes first. -/
def Orderly {κ : Type} (journal : List (JournalEntry κ)) : Prop :=
  journal.Pairwise fun later earlier =>
    ∀ n, earlier.closes n = true → later.call.cursor? ≠ some n

namespace Reply

/-- Whether a cursor has been registered for the reply. -/
def registers : Reply → Bool
  | .executed (.ok (.rows _ _)) | .executed (.ok (.updateWithKeys _ _ _)) => true
  | _ => false

/-- Whether a cursor has been found exhausted for the reply, or has failed. -/
def finishes : Reply → Bool
  | .fetched (.ok none) | .fetched (.error (.engine _)) => true
  | _ => false

/-- The cursor whose columns, or whose row, are in the reply. -/
def shown? : Request → Reply → Option Nat
  | .execute _, .executed (.ok (.rows number _)) => some number
  | .execute _, .executed (.ok (.updateWithKeys _ number _)) => some number
  | .fetch number, .fetched (.ok (some _)) => some number
  | _, _ => none

end Reply

namespace Worker

variable {σ π κ : Type} {E : Engine σ π κ} {w : Worker σ κ}

/-- How many times a cursor has been closed. -/
def closes (w : Worker σ κ) (number : Nat) : Nat := w.journal.countP (·.closes number)

/-- How many times a cursor is in the table. -/
def holds (w : Worker σ κ) (number : Nat) : Nat := (w.cursors.map Prod.fst).count number

/-- Every cursor that has been handed back is in the table or has been closed, once. -/
structure Balanced (w : Worker σ κ) : Prop where
  sound : w.Sound
  orderly : Orderly w.journal
  balance : ∀ n, w.holds n + w.closes n = if n < w.handedBack then 1 else 0

/-! ### Table and journal -/

@[simp] theorem closes_note (call : EngineCall κ) (failure : Option EngineError) (s : σ) (n : Nat) :
    (w.note call failure s).closes n =
      w.closes n + if JournalEntry.closes ⟨call, failure⟩ n then 1 else 0 :=
  List.countP_cons

theorem closes_note_closeCursor (m n : Nat) (cursor : κ) (failure : Option EngineError) (s : σ) :
    (w.note (.closeCursor m cursor) failure s).closes n =
      w.closes n + if m = n then 1 else 0 := by
  simp [JournalEntry.closes]

@[simp] theorem holds_note (call : EngineCall κ) (failure : Option EngineError) (s : σ) (n : Nat) :
    (w.note call failure s).holds n = w.holds n := rfl

@[simp] theorem closes_keep (m n : Nat) (cursor : κ) : (w.keep m cursor).closes n = w.closes n :=
  rfl

@[simp] theorem holds_keep (m n : Nat) (cursor : κ) : (w.keep m cursor).holds n = w.holds n := by
  rw [holds, map_fst_keep, holds]

@[simp] theorem closes_forget (m n : Nat) : (w.forget m).closes n = w.closes n := rfl

theorem map_fst_forget (m : Nat) :
    (w.forget m).cursors.map Prod.fst = (w.cursors.map Prod.fst).filter (· != m) := by
  rw [forget, List.filter_map]
  refine congrArg (List.map Prod.fst) (List.filter_congr fun p _ => ?_)
  simp [bne, beq_eq_decide]

theorem holds_forget (m n : Nat) : (w.forget m).holds n = if m = n then 0 else w.holds n := by
  rw [holds, map_fst_forget]
  split_ifs with h
  · rw [List.count_eq_zero]
    simp [h]
  · exact List.count_filter (by simpa using Ne.symm h)

@[simp] theorem closes_register (n : Nat) (cursor : κ) :
    (w.register cursor).closes n = w.closes n := rfl

theorem holds_register (n : Nat) (cursor : κ) :
    (w.register cursor).holds n = w.holds n + if w.handedBack = n then 1 else 0 := by
  rw [holds, register, List.map_append, List.count_append, List.map_singleton,
    List.count_singleton, holds]
  simp

@[simp] theorem handedBack_register (cursor : κ) :
    (w.register cursor).handedBack = w.handedBack + 1 := rfl

@[simp] theorem handedBack_skip : w.skip.handedBack = w.handedBack + 1 := rfl

@[simp] theorem closes_skip (n : Nat) : w.skip.closes n = w.closes n := rfl

@[simp] theorem holds_skip (n : Nat) : w.skip.holds n = w.holds n := rfl

/-! ### Every step keeps the balance -/

theorem Balanced.start (session : σ) (closeOnDrop : Bool) :
    (Worker.start session closeOnDrop : Worker σ κ).Balanced :=
  ⟨.start session closeOnDrop, .nil, fun _ => rfl⟩

theorem Balanced.holds_of_lookup (hw : w.Balanced) {n : Nat} {cursor : κ}
    (h : w.cursors.lookup n = some cursor) : w.holds n = 1 := by
  have hmem : n ∈ w.cursors.map Prod.fst := by
    obtain ⟨before, after, hcursors, -⟩ := List.lookup_eq_some_iff.mp h
    simp [hcursors]
  exact List.count_eq_one_of_mem hw.sound.nodup hmem

theorem Balanced.lt_of_holds (hw : w.Balanced) {n : Nat} (h : w.holds n = 1) :
    n < w.handedBack := by
  have hbalance := hw.balance n
  split_ifs at hbalance with hlt
  · exact hlt
  · omega

theorem Balanced.closes_of_holds (hw : w.Balanced) {n : Nat} (h : w.holds n = 1) :
    w.closes n = 0 := by
  have hbalance := hw.balance n
  split_ifs at hbalance <;> omega

/-- A call may follow that concerns no cursor, or one that has not been closed. -/
theorem Balanced.orderly_cons (hw : w.Balanced) {call : EngineCall κ}
    (h : ∀ n, call.cursor? = some n → w.closes n = 0) (failure : Option EngineError) :
    Orderly (⟨call, failure⟩ :: w.journal) := by
  refine List.pairwise_cons.mpr ⟨fun earlier hmem n hcloses hcall => ?_, hw.orderly⟩
  have hpos : 0 < w.closes n := List.countP_pos_iff.mpr ⟨earlier, hmem, hcloses⟩
  rw [h n hcall] at hpos
  exact Nat.lt_irrefl 0 hpos

theorem Balanced.note (hw : w.Balanced) {call : EngineCall κ}
    (h : ∀ n, call.cursor? = some n → w.holds n = 1) {failure : Option EngineError}
    (hcloses : ∀ n, JournalEntry.closes ⟨call, failure⟩ n = false) (s : σ) :
    (w.note call failure s).Balanced := by
  refine ⟨?_, ?_, fun n => ?_⟩
  · exact hw.sound.note (fun n hn => hw.lt_of_holds (h n hn)) failure s
  · exact hw.orderly_cons (fun n hn => hw.closes_of_holds (h n hn)) failure
  · rw [holds_note, closes_note, hcloses n]
    exact hw.balance n

theorem Balanced.note_of_none (hw : w.Balanced) {call : EngineCall κ} (h : call.cursor? = none)
    (failure : Option EngineError) (s : σ) : (w.note call failure s).Balanced := by
  refine hw.note (fun n hn => ?_) (fun n => ?_) s
  · rw [h] at hn
    cases hn
  · cases call with
    | closeCursor => cases h
    | _ => rfl

theorem Balanced.keep (hw : w.Balanced) (n : Nat) (cursor : κ) : (w.keep n cursor).Balanced := by
  refine ⟨hw.sound.keep n cursor, hw.orderly, fun m => ?_⟩
  rw [holds_keep]
  exact hw.balance m

theorem Balanced.register (hw : w.Balanced) (cursor : κ) : (w.register cursor).Balanced := by
  refine ⟨hw.sound.register cursor, hw.orderly, fun n => ?_⟩
  have hbalance := hw.balance n
  rw [holds_register, closes_register, handedBack_register]
  split_ifs at hbalance ⊢ <;> omega

/-- A cursor leaves the table by being closed. -/
theorem Balanced.release (hw : w.Balanced) {n : Nat} (hn : w.holds n = 1) (cursor : κ)
    (failure : Option EngineError) (s : σ) :
    ((w.forget n).note (.closeCursor n cursor) failure s).Balanced := by
  have hlt := hw.lt_of_holds hn
  refine ⟨(hw.sound.forget n).note (fun m hm => ?_) failure s,
    hw.orderly_cons (fun m hm => ?_) failure, fun m => ?_⟩
  · obtain rfl : n = m := Option.some.inj hm
    exact hlt
  · obtain rfl : n = m := Option.some.inj hm
    exact hw.closes_of_holds hn
  · have hbalance := hw.balance m
    rw [holds_note, holds_forget, closes_note_closeCursor, closes_forget, note_handedBack]
    by_cases hnm : n = m
    · subst hnm
      rw [hn] at hbalance
      rw [if_pos rfl, if_pos rfl, Nat.zero_add, Nat.add_comm]
      exact hbalance
    · rw [if_neg hnm, if_neg hnm]
      exact hbalance

/-- A cursor that is not registered is closed at once. -/
theorem Balanced.discard (hw : w.Balanced) (cursor : κ) (failure : Option EngineError) (s : σ) :
    ((w.note (.closeCursor w.handedBack cursor) failure s).skip).Balanced := by
  have hzero : w.closes w.handedBack = 0 := by
    have hbalance := hw.balance w.handedBack
    rw [if_neg (Nat.lt_irrefl _)] at hbalance
    omega
  refine ⟨hw.sound.skip.note (fun m hm => ?_) failure s,
    hw.orderly_cons (fun m hm => ?_) failure, fun m => ?_⟩
  · rw [← Option.some.inj hm]
    exact Nat.lt_succ_self _
  · rw [← Option.some.inj hm]
    exact hzero
  · have hbalance := hw.balance m
    rw [holds_skip, holds_note, closes_skip, closes_note_closeCursor, handedBack_skip,
      note_handedBack]
    split_ifs at hbalance ⊢ <;> omega

/-! ### Every request keeps the balance -/

section Requests

variable {x : Execution} {r : Except Error Outcome × Worker σ κ} {number : Nat} {cursor : κ}
  {f : Except Error (Option (List Value)) × Worker σ κ}

theorem Executed.balanced (hr : Executed E x w r) (hw : w.Balanced) : r.2.Balanced := by
  have hprepared : ∀ f s, (w.note (.prepare x.sql x.parameters) f s).Balanced :=
    fun f s => hw.note_of_none rfl f s
  cases hr with
  | prepareFailed _ => exact hprepared _ _
  | queryFailed _ _ _ => exact (hprepared _ _).note_of_none rfl _ _
  | rows _ _ _ => exact ((hprepared _ _).note_of_none rfl _ _).register _
  | updateFailed _ _ _ => exact (hprepared _ _).note_of_none rfl _ _
  | update _ _ _ => exact (hprepared _ _).note_of_none rfl _ _
  | updateWithKeys _ _ _ _ => exact ((hprepared _ _).note_of_none rfl _ _).register _
  | updateDiscarding _ _ _ _ _ => exact ((hprepared _ _).note_of_none rfl _ _).discard _ _ _

theorem Fetched.balanced (hf : Fetched E number cursor w f) (hw : w.Balanced)
    (hnumber : w.holds number = 1) : f.2.Balanced := by
  have hown : ∀ n, some number = some n → w.holds n = 1 := by
    rintro n ⟨⟩
    exact hnumber
  have hasNext : ∀ f s, (w.note (.hasNext number) f s).Balanced :=
    fun f s => hw.note (by exact hown) (fun _ => rfl) s
  have advance : ∀ f s f' s',
      ((w.note (.hasNext number) f s).note (.advance number) f' s').Balanced :=
    fun f s f' s' => (hasNext f s).note (by exact hown) (fun _ => rfl) s'
  cases hf with
  | hasNextFailed _ _ | exhausted _ _ | closeFailed _ _ =>
    exact (hasNext _ _).release hnumber _ _ _
  | advanceFailed _ _ _ => exact (advance _ _ _ _).release hnumber _ _ _
  | row _ _ => exact (advance _ _ _ _).keep _ _

end Requests

/-- Closing what is in the table, one after the other, empties it. -/
theorem Balanced.closeAll {cs : List (Nat × κ)} (hw : Balanced { w with cursors := cs }) :
    let r := cs.foldl (fun w c => (w.closeCursor E c.1 c.2).2) { w with cursors := [] }
    r.Balanced ∧ r.cursors = [] ∧ r.handedBack = w.handedBack := by
  induction cs generalizing w with
  | nil => exact ⟨hw, rfl, rfl⟩
  | cons c cs ih =>
    have hnodup := hw.sound.nodup
    rw [List.map_cons, List.nodup_cons] at hnodup
    have hheld : holds { w with cursors := c :: cs } c.1 = 1 :=
      List.count_eq_one_of_mem hw.sound.nodup List.mem_cons_self
    rcases hclosed : E.closeCursor c.2 w.session with ⟨closed, s⟩
    have hforget : (forget { w with cursors := c :: cs } c.1).cursors = cs := by
      rw [forget, List.filter_cons_of_neg (by simp), List.filter_eq_self]
      intro d hd
      have hne : d.1 ≠ c.1 := fun h => hnodup.1 (h ▸ List.mem_map_of_mem hd)
      simpa using hne
    have hnext := hw.release hheld c.2 (failure? closed) s
    simp only [List.foldl_cons, closeCursor, hclosed]
    refine ih (w := w.note (.closeCursor c.1 c.2) (failure? closed) s) ?_
    rw [← hforget]
    exact hnext

theorem Balanced.finish (hw : w.Balanced) : Balanced { w with ended := true } :=
  ⟨⟨hw.sound.nodup, hw.sound.cursors_lt, hw.sound.journal_lt⟩, hw.orderly, hw.balance⟩

theorem Balanced.shutdown (hw : w.Balanced) :
    (w.shutdown E).2.Balanced ∧ (w.shutdown E).2.cursors = [] ∧
      (w.shutdown E).2.handedBack = w.handedBack := by
  obtain ⟨hbalanced, hcursors, hhanded⟩ := Balanced.closeAll (E := E) hw
  have hnone : (EngineCall.closeSession : EngineCall κ).cursor? = none := rfl
  have hsession := hbalanced.note_of_none hnone
    (failure? (E.closeSession (w.closeLeftovers E).session).1)
    (E.closeSession (w.closeLeftovers E).session).2
  exact ⟨hsession.finish, hcursors, hhanded⟩

/-- A close reports what comes of the shutdown. -/
theorem close_eq_shutdown (h : w.ended = false) :
    w.close E = ((w.shutdown E).1.mapError Error.engine, (w.shutdown E).2) := by
  rw [close, unlessEnded, h, if_neg Bool.false_ne_true]
  rcases w.shutdown E with ⟨e | _, w'⟩ <;> rfl

theorem close_eq (h : w.ended = false) : (w.close E).2 = (w.shutdown E).2 :=
  congrArg Prod.snd (close_eq_shutdown h)

theorem serve_of_ended (h : w.ended = true) (request : Request) :
    w.serve E request = (.refusal gone request, w) := by
  cases request <;>
    simp [serve, execute, fetch, openCursors, close, unlessEnded, h, Reply.refusal]

/-- What can come of a request to a running worker. -/
inductive Served (E : Engine σ π κ) (w : Worker σ κ) : Request → Reply × Worker σ κ → Prop
  | execute {x : Execution} {r : Except Error Outcome × Worker σ κ} :
      Executed E x w r → Served E w (.execute x) (.executed r.1, r.2)
  | fetch {number : Nat} {cursor : κ} {f : Except Error (Option (List Value)) × Worker σ κ} :
      w.cursors.lookup number = some cursor → Fetched E number cursor w f →
      Served E w (.fetch number) (.fetched f.1, f.2)
  | absent {number : Nat} : w.cursors.lookup number = none →
      Served E w (.fetch number) (.fetched (.error (.cursorClosed number)), w)
  | openCursors : Served E w .openCursors (.counted (.ok w.cursors.length), w)
  | close {result : Except Error Unit} : Served E w .close (.closed result, (w.shutdown E).2)

/-- A running worker does one of these things. -/
theorem served (E : Engine σ π κ) (h : w.ended = false) (request : Request) :
    Served E w request (w.serve E request) := by
  cases request with
  | execute x => exact .execute (executed E h x)
  | fetch number =>
    cases hl : w.cursors.lookup number with
    | none =>
      rw [serve, fetch_of_lookup_eq_none h hl]
      exact .absent hl
    | some cursor => exact .fetch hl (fetched E h hl)
  | openCursors =>
    rw [serve, openCursors_eq h]
    exact .openCursors
  | close =>
    rw [serve, close_eq h]
    exact .close

section Served

variable {request : Request} {r : Reply × Worker σ κ}

theorem Served.balanced (hs : Served E w request r) (hw : w.Balanced) : r.2.Balanced := by
  cases hs with
  | execute hr => exact hr.balanced hw
  | fetch hl hf => exact hf.balanced hw (hw.holds_of_lookup hl)
  | absent | openCursors => exact hw
  | close => exact hw.shutdown.1

/-- Nothing but a close ends a worker, or changes what it does at the end. -/
theorem Served.running (hs : Served E w request r) (hne : request ≠ .close) :
    r.2.ended = w.ended ∧ r.2.closeOnDrop = w.closeOnDrop := by
  cases hs with
  | execute hr => exact ⟨hr.ended_eq, by cases hr <;> rfl⟩
  | fetch _ hf => exact ⟨hf.ended_eq, by cases hf <;> rfl⟩
  | absent | openCursors => exact ⟨rfl, rfl⟩
  | close => exact absurd rfl hne

end Served

theorem ended_serve (E : Engine σ π κ) (h : w.ended = false) {request : Request}
    (hne : request ≠ .close) : (w.serve E request).2.ended = false :=
  ((served E h request).running hne).1.trans h

theorem Balanced.serve (hw : w.Balanced) (request : Request) :
    (w.serve E request).2.Balanced := by
  cases h : w.ended with
  | true =>
    rw [serve_of_ended h]
    exact hw
  | false => exact (served E h request).balanced hw

theorem Balanced.serveWaiting (hw : w.Balanced) (requests : List Request) :
    (w.serveWaiting E requests).2.Balanced := by
  induction requests generalizing w with
  | nil => exact hw
  | cons request rest ih =>
    cases request with
    | close => exact hw.serve .close
    | _ => exact ih (hw.serve _)

/-- The requests come to an end with the first close, and the table is empty then. -/
theorem Balanced.closes_of_close (hw : w.Balanced) (h : w.ended = false) {requests : List Request}
    (hclose : .close ∈ requests) : (w.serveWaiting E requests).2.cursors = [] := by
  induction requests generalizing w with
  | nil => cases hclose
  | cons request rest ih =>
    cases request with
    | close =>
      change (w.close E).2.cursors = []
      rw [close_eq h]
      exact hw.shutdown.2.1
    | _ =>
      refine ih (hw.serve _) ((ended_serve E h nofun)) ?_
      simpa using hclose

theorem Balanced.closes_of_empty (hw : w.Balanced) (h : w.cursors = []) {n : Nat}
    (hn : n < w.handedBack) : w.closes n = 1 := by
  have hbalance := hw.balance n
  rw [holds, h, if_pos hn] at hbalance
  simpa using hbalance

/-! ### The size of the table -/

theorem length_forget (hw : w.Balanced) {n : Nat} (h : w.holds n = 1) :
    (w.forget n).cursors.length + 1 = w.cursors.length := by
  have hmem : n ∈ w.cursors.map Prod.fst := List.count_pos_iff.mp (by rw [holds] at h; omega)
  have hlength := List.length_erase_add_one hmem
  rw [hw.sound.nodup.erase_eq_filter, ← map_fst_forget, List.length_map, List.length_map] at hlength
  exact hlength

section Requests

variable {x : Execution} {r : Except Error Outcome × Worker σ κ} {number : Nat} {cursor : κ}
  {f : Except Error (Option (List Value)) × Worker σ κ}

theorem Executed.length_eq (hr : Executed E x w r) : r.2.cursors.length =
    w.cursors.length + if (Reply.executed r.1).registers then 1 else 0 := by
  cases hr <;> simp [Reply.registers, register, skip, prepared]

theorem Fetched.length_eq (hf : Fetched E number cursor w f) (hw : w.Balanced)
    (hnumber : w.holds number = 1) :
    f.2.cursors.length + (if (Reply.fetched f.1).finishes then 1 else 0) = w.cursors.length := by
  have hforget := length_forget hw hnumber
  cases hf with
  | row => simp [Reply.finishes, Worker.keep]
  | _ => exact hforget

end Requests

/-- A request changes the size of the table as its reply says. -/
theorem Served.length_eq {request : Request} {r : Reply × Worker σ κ} (hs : Served E w request r)
    (hw : w.Balanced) (hne : request ≠ .close) :
    r.2.cursors.length + (if r.1.finishes then 1 else 0) =
      w.cursors.length + if r.1.registers then 1 else 0 := by
  cases hs with
  | execute hr => exact hr.length_eq
  | fetch hl hf => exact hf.length_eq hw (hw.holds_of_lookup hl)
  | absent | openCursors => rfl
  | close => exact absurd rfl hne

theorem serveWaiting_cons {request : Request} (hne : request ≠ .close) (rest : List Request) :
    w.serveWaiting E (request :: rest) =
      ((w.serve E request).1 :: ((w.serve E request).2.serveWaiting E rest).1,
        ((w.serve E request).2.serveWaiting E rest).2) := by
  cases request with
  | close => exact absurd rfl hne
  | _ => rfl

/-- Without a close the worker goes on. -/
theorem running_serveWaiting (h : w.ended = false) {requests : List Request}
    (hclose : .close ∉ requests) : (w.serveWaiting E requests).2.ended = false ∧
      (w.serveWaiting E requests).2.closeOnDrop = w.closeOnDrop := by
  induction requests generalizing w with
  | nil => exact ⟨h, rfl⟩
  | cons request rest ih =>
    rw [List.mem_cons, not_or] at hclose
    have hne := Ne.symm hclose.1
    rw [serveWaiting_cons hne, ← ((served E h request).running hne).2]
    exact ih (ended_serve E h hne) hclose.2

/-- The table has what was registered less what was finished. -/
theorem Balanced.length_table (hw : w.Balanced) (h : w.ended = false)
    {requests : List Request} (hclose : .close ∉ requests) :
    (w.serveWaiting E requests).2.cursors.length +
        (w.serveWaiting E requests).1.countP Reply.finishes =
      w.cursors.length + (w.serveWaiting E requests).1.countP Reply.registers := by
  induction requests generalizing w with
  | nil => rfl
  | cons request rest ih =>
    rw [List.mem_cons, not_or] at hclose
    have hne := Ne.symm hclose.1
    have hfirst := (served E h request).length_eq hw hne
    have hrest := ih (hw.serve request) (ended_serve E h hne) hclose.2
    rw [serveWaiting_cons hne]
    simp only [List.countP_cons]
    omega

/-! ### Cursors in replies -/

theorem Balanced.closes_of_le (hw : w.Balanced) {n : Nat} (h : w.handedBack ≤ n) :
    w.closes n = 0 := by
  have hbalance := hw.balance n
  rw [if_neg (Nat.not_lt.mpr h)] at hbalance
  omega

theorem Executed.closes_of_shown {x : Execution} {r : Except Error Outcome × Worker σ κ}
    (hr : Executed E x w r) (hw : w.Balanced) {n : Nat}
    (hn : (Reply.executed r.1).shown? (.execute x) = some n) : r.2.closes n = 0 := by
  have hzero := hw.closes_of_le (Nat.le_refl w.handedBack)
  cases hr with
  | rows | updateWithKeys =>
    obtain rfl := Option.some.inj hn
    simpa [prepared, JournalEntry.closes] using hzero
  | prepareFailed | queryFailed | updateFailed | update | updateDiscarding => cases hn

theorem Fetched.closes_of_shown {number : Nat} {cursor : κ}
    {f : Except Error (Option (List Value)) × Worker σ κ} (hf : Fetched E number cursor w f)
    (hw : w.Balanced) (hnumber : w.holds number = 1) {n : Nat}
    (hn : (Reply.fetched f.1).shown? (.fetch number) = some n) : f.2.closes n = 0 := by
  have hzero := hw.closes_of_holds hnumber
  cases hf with
  | row =>
    obtain rfl := Option.some.inj hn
    simpa [JournalEntry.closes] using hzero
  | hasNextFailed | exhausted | closeFailed | advanceFailed => cases hn

/-- A cursor that a reply shows something of has not been closed. -/
theorem Balanced.closes_of_shown (hw : w.Balanced) {request : Request} {n : Nat}
    (hn : (w.serve E request).1.shown? request = some n) : (w.serve E request).2.closes n = 0 := by
  cases h : w.ended with
  | true =>
    rw [serve_of_ended h] at hn
    cases request <;> cases hn
  | false =>
    have hs := served E h request
    generalize w.serve E request = r at hs hn ⊢
    cases hs with
    | execute hr => exact hr.closes_of_shown hw hn
    | fetch hl hf => exact hf.closes_of_shown hw (hw.holds_of_lookup hl) hn
    | absent | openCursors | close => cases hn

theorem journal_suffix_closeAll (cs : List (Nat × κ)) (w : Worker σ κ) :
    w.journal <:+ (cs.foldl (fun w c => (w.closeCursor E c.1 c.2).2) w).journal := by
  induction cs generalizing w with
  | nil => exact List.suffix_rfl
  | cons c cs ih =>
    rw [List.foldl_cons]
    exact (List.suffix_cons _ _).trans (ih (w.closeCursor E c.1 c.2).2)

/-- What is on record stays there. -/
theorem Served.journal_suffix {request : Request} {r : Reply × Worker σ κ}
    (hs : Served E w request r) : w.journal <:+ r.2.journal := by
  cases hs with
  | execute hr => cases hr <;> simp [prepared, register, skip, List.suffix_cons_iff]
  | fetch _ hf => cases hf <;> simp [forget, keep, List.suffix_cons_iff]
  | absent | openCursors => exact List.suffix_rfl
  | close =>
    exact (journal_suffix_closeAll w.cursors { w with cursors := [] }).trans (List.suffix_cons _ _)

theorem journal_suffix_serve (request : Request) :
    w.journal <:+ (w.serve E request).2.journal := by
  cases h : w.ended with
  | true => rw [serve_of_ended h]
  | false => exact (served E h request).journal_suffix

theorem journal_suffix_serveWaiting (requests : List Request) :
    w.journal <:+ (w.serveWaiting E requests).2.journal := by
  induction requests generalizing w with
  | nil => exact List.suffix_rfl
  | cons request rest ih =>
    cases request with
    | close => exact journal_suffix_serve .close
    | _ => exact (journal_suffix_serve _).trans ih

/-! ### Keys that nobody asked for -/

/-- A cursor over generated values that nobody asked for is closed before the reply, and it never
gets into the table. -/
theorem Balanced.discarded (hw : w.Balanced) (h : w.ended = false) {x : Execution} {command : π}
    {s s' : σ} {count : Nat} {cursor : κ}
    (hprepare : E.prepare x.sql x.parameters w.session = (.ok command, s))
    (hquery : E.isQuery command = false)
    (hupdate : E.update command x.keys s = (.ok ⟨count, some cursor⟩, s'))
    (hkeys : x.keys.requested = false) :
    let r := w.serve E (.execute x)
    r.1 = .executed (.ok (.update count)) ∧ r.2.closes w.handedBack = 1 ∧
      ∀ later, (r.2.serveWaiting E later).2.holds w.handedBack = 0 := by
  intro r
  obtain ⟨hreply, hcloses⟩ : r.1 = .executed (.ok (.update count)) ∧
      r.2.closes w.handedBack = 1 := by
    have hr := executed E h x
    have hzero := hw.closes_of_le (Nat.le_refl w.handedBack)
    rw [show r = (.executed (w.execute E x).1, (w.execute E x).2) from rfl]
    generalize w.execute E x = executed at hr
    cases hr with
    | updateDiscarding hp _ hu _ _ =>
      obtain ⟨rfl, rfl⟩ : command = _ ∧ s = _ := by simpa [hprepare] using hp
      obtain ⟨⟨rfl, rfl⟩, rfl⟩ : (count = _ ∧ cursor = _) ∧ s' = _ := by simpa [hupdate] using hu
      refine ⟨rfl, ?_⟩
      rw [closes_skip, closes_note_closeCursor, if_pos rfl]
      simpa [prepared, JournalEntry.closes] using hzero
    | prepareFailed hp => simp [hprepare] at hp
    | queryFailed hp hq | rows hp hq => simp_all
    | updateFailed hp _ hu | update hp _ hu => simp_all
    | updateWithKeys _ _ _ hk => simp [hkeys] at hk
  refine ⟨hreply, hcloses, fun later => ?_⟩
  have hafter : r.2.Balanced := hw.serve (.execute x)
  have hbalance := (hafter.serveWaiting (E := E) later).balance w.handedBack
  have hle : r.2.closes w.handedBack ≤ (r.2.serveWaiting E later).2.closes w.handedBack :=
    (journal_suffix_serveWaiting later).sublist.countP_le
  rw [hcloses] at hle
  split_ifs at hbalance <;> omega

/-! ### The end of a worker -/

theorem Balanced.drop (hw : w.Balanced) : (w.drop E).Balanced := by
  rw [Worker.drop]
  split_ifs
  · exact hw
  · exact hw.shutdown.1
  · exact hw.finish

/-- A worker that closes its session when it is dropped closes all cursors with it. -/
theorem Balanced.closes_drop (hw : w.Balanced) (h : w.ended = false) (hclose : w.closeOnDrop = true)
    {n : Nat} (hn : n < w.handedBack) : (w.drop E).closes n = 1 := by
  have hdrop : w.drop E = (w.shutdown E).2 := by
    rw [Worker.drop, h, hclose, if_neg Bool.false_ne_true, if_pos rfl]
  obtain ⟨hbalanced, hcursors, hhanded⟩ := hw.shutdown (E := E)
  rw [hdrop]
  refine hbalanced.closes_of_empty hcursors ?_
  rw [hhanded]
  exact hn

/-- A worker that does not leaves the cursors in the table open. -/
theorem Balanced.closes_drop_eq_zero (hw : w.Balanced) (h : w.ended = false)
    (hclose : w.closeOnDrop = false) {n : Nat} (hn : n < w.handedBack) :
    (w.drop E).closes n = 0 ↔ n ∈ w.cursors.map Prod.fst := by
  have hdrop : w.drop E = { w with ended := true } := by
    rw [Worker.drop, h, hclose, if_neg Bool.false_ne_true, if_neg Bool.false_ne_true]
  have hbalance := hw.balance n
  rw [if_pos hn] at hbalance
  rw [hdrop, show closes { w with ended := true } n = w.closes n from rfl, ← List.count_pos_iff,
    show List.count n _ = w.holds n from rfl]
  omega

end Worker

end SqlClient
