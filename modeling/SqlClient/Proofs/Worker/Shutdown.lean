import SqlClient.Proofs.Worker.Lifecycle

/-!
# What a shutdown does

The cursors in the table are closed one after the other, whatever comes of it, and the session after
them. A shutdown is the last thing a worker does, and nothing else closes the session, so that it is
closed once at most.
-/

namespace SqlClient

variable {σ π κ : Type}

/-- Whether the entry is of the session being closed. -/
def JournalEntry.closesSession (entry : JournalEntry κ) : Bool :=
  match entry.call with
  | .closeSession => true
  | _ => false

namespace Worker

/-- How many times the session has been closed, or has failed to close. -/
def sessionCloses (w : Worker σ κ) : Nat := w.journal.countP (·.closesSession)

/-- What comes of a shutdown, with the calls for the cursors that were left over. -/
structure Stopped (w : Worker σ κ) (leftovers : List (JournalEntry κ))
    (r : Except EngineError Unit × Worker σ κ) : Prop where
  leftovers_eq : leftovers.map JournalEntry.call = w.cursors.map fun p => .closeCursor p.1 p.2
  journal_eq : r.2.journal = ⟨.closeSession, failure? r.1⟩ :: (leftovers.reverse ++ w.journal)
  cursors_eq : r.2.cursors = []
  ended_eq : r.2.ended = true

/-- The session has been closed once, after every cursor and every other call. -/
structure Closed (w : Worker σ κ) : Prop where
  cursors_eq : w.cursors = []
  last : ∃ failure earlier, w.journal = ⟨.closeSession, failure⟩ :: earlier ∧
    earlier.countP (·.closesSession) = 0

section

variable (E : Engine σ π κ)

/-- Closing some cursors adds their calls to the journal, in order. -/
theorem journal_closeAll (cursors : List (Nat × κ)) (w : Worker σ κ) :
    ∃ calls : List (JournalEntry κ),
      calls.map JournalEntry.call = cursors.map (fun p => .closeCursor p.1 p.2) ∧
        (cursors.foldl (fun w p => (w.closeCursor E p.1 p.2).2) w).journal =
          calls.reverse ++ w.journal := by
  induction cursors generalizing w with
  | nil => exact ⟨[], rfl, rfl⟩
  | cons p later ih =>
    obtain ⟨calls, hcalls, hjournal⟩ := ih (w.closeCursor E p.1 p.2).2
    let call := EngineCall.closeCursor p.1 p.2
    refine ⟨⟨call, failure? (E.closeCursor p.2 w.session).1⟩ :: calls, ?_, ?_⟩
    · rw [List.map_cons, hcalls, List.map_cons]
    · rw [List.foldl_cons, hjournal, List.reverse_cons, List.append_assoc]
      rfl

theorem cursors_closeAll (cursors : List (Nat × κ)) (w : Worker σ κ) :
    (cursors.foldl (fun w p => (w.closeCursor E p.1 p.2).2) w).cursors = w.cursors := by
  induction cursors generalizing w with
  | nil => rfl
  | cons p later ih => exact ih (w.closeCursor E p.1 p.2).2

theorem stopped_shutdown (w : Worker σ κ) : ∃ leftovers, w.Stopped leftovers (w.shutdown E) := by
  obtain ⟨leftovers, hcalls, hjournal⟩ := journal_closeAll E w.cursors { w with cursors := [] }
  have hclosed : (w.closeLeftovers E).journal = leftovers.reverse ++ w.journal := hjournal
  refine ⟨leftovers, hcalls, ?_, cursors_closeAll E w.cursors { w with cursors := [] }, rfl⟩
  rw [← hclosed]
  rfl

theorem journal_suffix_drop (w : Worker σ κ) :
    w.journal <:+ (w.drop E).journal := by
  rw [drop]
  split_ifs
  · exact List.suffix_rfl
  · exact (Served.close : Served E w .close (.closed (.ok ()), _)).journal_suffix
  · exact List.suffix_rfl

theorem ended_drop (w : Worker σ κ) : (w.drop E).ended = true := by
  rw [drop]
  split_ifs with hended
  · exact hended
  · rfl
  · rfl

end

namespace Stopped

variable {w : Worker σ κ} {leftovers : List (JournalEntry κ)}
  {r : Except EngineError Unit × Worker σ κ} (h : w.Stopped leftovers r)

include h

/-- What is done for a cursor that is left over is that it is closed. -/
theorem closeCursor_of_mem {x : JournalEntry κ} (hx : x ∈ leftovers) :
    ∃ n cursor, x.call = .closeCursor n cursor := by
  have hcall : x.call ∈ w.cursors.map fun p => EngineCall.closeCursor p.1 p.2 := by
    rw [← h.leftovers_eq]
    exact List.mem_map_of_mem hx
  obtain ⟨p, -, hp⟩ := List.mem_map.mp hcall
  exact ⟨p.1, p.2, hp.symm⟩

end Stopped

/-! ### The session is closed once -/

variable {E : Engine σ π κ} {w : Worker σ κ}

theorem Closed.sessionCloses_eq (h : w.Closed) : w.sessionCloses = 1 := by
  obtain ⟨failure, earlier, hjournal, hearlier⟩ := h.last
  rw [sessionCloses, hjournal, List.countP_cons, hearlier]
  rfl

@[simp] theorem sessionCloses_note (call : EngineCall κ) (failure : Option EngineError) (s : σ) :
    (w.note call failure s).sessionCloses =
      w.sessionCloses + if JournalEntry.closesSession ⟨call, failure⟩ then 1 else 0 :=
  List.countP_cons

@[simp] theorem sessionCloses_register (cursor : κ) :
    (w.register cursor).sessionCloses = w.sessionCloses := rfl

@[simp] theorem sessionCloses_keep (n : Nat) (cursor : κ) :
    (w.keep n cursor).sessionCloses = w.sessionCloses := rfl

@[simp] theorem sessionCloses_forget (n : Nat) :
    (w.forget n).sessionCloses = w.sessionCloses := rfl

@[simp] theorem sessionCloses_skip : w.skip.sessionCloses = w.sessionCloses := rfl

/-- Nothing but a close closes the session. -/
theorem Served.sessionCloses_eq {q : Request} {r : Reply × Worker σ κ} (hs : Served E w q r)
    (hq : q ≠ .close) : r.2.sessionCloses = w.sessionCloses := by
  cases hs with
  | execute hr => cases hr <;> simp [prepared, JournalEntry.closesSession]
  | fetch _ hf => cases hf <;> simp [JournalEntry.closesSession]
  | absent | openCursors => rfl
  | close => exact absurd rfl hq

/-- A shutdown closes a session that has not been closed. -/
theorem closed_shutdown (h : w.sessionCloses = 0) : (w.shutdown E).2.Closed := by
  obtain ⟨leftovers, hstopped⟩ := w.stopped_shutdown E
  refine ⟨hstopped.cursors_eq, _, _, hstopped.journal_eq, ?_⟩
  have hleftovers : leftovers.reverse.countP (·.closesSession) = 0 := by
    rw [List.countP_eq_zero]
    intro x hx
    obtain ⟨n, cursor, hcall⟩ := hstopped.closeCursor_of_mem (List.mem_reverse.mp hx)
    simp [JournalEntry.closesSession, hcall]
  rw [List.countP_append, hleftovers, Nat.zero_add]
  exact h

theorem closed_drop (h : w.ended = false) (hcloses : w.sessionCloses = 0) :
    if w.closeOnDrop then (w.drop E).Closed else (w.drop E).sessionCloses = 0 := by
  rw [drop, h, if_neg Bool.false_ne_true]
  split_ifs
  · exact closed_shutdown hcloses
  · exact hcloses

end Worker

end SqlClient
