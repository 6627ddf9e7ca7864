import SqlClient.Proofs.Worker.Steps

/-!
# The cursors of a worker

Cursors are told apart by their numbers: every number in the table and in the journal has been given
out, and none is given out twice. What a request does to one cursor leaves the others, and what the
journal says of them, as they were.
-/

namespace SqlClient

/-- Whether the entry is of a cursor that was moved on. -/
def JournalEntry.moves {κ : Type} (entry : JournalEntry κ) (number : Nat) : Bool :=
  match entry.call, entry.failure with
  | .advance m, none => m == number
  | _, _ => false

namespace Worker

variable {σ π κ : Type} {E : Engine σ π κ} {w : Worker σ κ}

/-- How many times a cursor has been moved on. -/
def advances (w : Worker σ κ) (number : Nat) : Nat := w.journal.countP (·.moves number)

/-- Numbers in use have been given out, and each once. -/
structure Sound (w : Worker σ κ) : Prop where
  nodup : (w.cursors.map Prod.fst).Nodup
  cursors_lt : ∀ p ∈ w.cursors, p.1 < w.handedBack
  journal_lt : ∀ e ∈ w.journal, ∀ n, e.call.cursor? = some n → n < w.handedBack

/-- A cursor is where it was, and nothing has been done with it. -/
structure Untouched (number : Nat) (w w' : Worker σ κ) : Prop where
  lookup_eq : w'.cursors.lookup number = w.cursors.lookup number
  advances_eq : w'.advances number = w.advances number

/-! ### The table -/

theorem lookup_keep_of_ne {m n : Nat} (h : n ≠ m) (cursor : κ) :
    (w.keep m cursor).cursors.lookup n = w.cursors.lookup n := by
  rw [keep]
  induction w.cursors with
  | nil => rfl
  | cons p ps ih =>
    rw [List.map_cons, List.lookup_cons, List.lookup_cons, ih]
    split_ifs with hp
    · have hm : (n == m) = false := beq_false_of_ne h
      rw [hm, hp, hm]
    · rfl

theorem lookup_keep_self {n : Nat} {old : κ} (h : w.cursors.lookup n = some old) (cursor : κ) :
    (w.keep n cursor).cursors.lookup n = some cursor := by
  rw [keep]
  revert h
  induction w.cursors with
  | nil => exact nofun
  | cons p ps ih =>
    intro h
    rw [List.map_cons, List.lookup_cons]
    by_cases hp : p.1 = n
    · rw [if_pos hp, beq_self_eq_true]
    · have hn : (n == p.1) = false := beq_false_of_ne (Ne.symm hp)
      rw [List.lookup_cons, hn] at h
      rw [if_neg hp, hn]
      exact ih h

theorem lookup_forget_of_ne {m n : Nat} (h : n ≠ m) :
    (w.forget m).cursors.lookup n = w.cursors.lookup n := by
  rw [forget]
  induction w.cursors with
  | nil => rfl
  | cons p ps ih =>
    rw [List.filter_cons, List.lookup_cons]
    split_ifs with hp
    · rw [List.lookup_cons, ih]
    · have hn : (n == p.1) = false := by
        rw [show p.1 = m by simpa using hp]
        simpa using h
      rw [hn]
      exact ih

theorem lookup_register_of_ne {n : Nat} (h : n ≠ w.handedBack) (cursor : κ) :
    (w.register cursor).cursors.lookup n = w.cursors.lookup n := by
  have hn : (n == w.handedBack) = false := beq_false_of_ne h
  rw [register, List.lookup_append, List.lookup_cons, hn, List.lookup_nil, Option.or_none]

theorem lookup_eq_none_of_lt {ps : List (Nat × κ)} {n : Nat} (h : ∀ p ∈ ps, p.1 < n) :
    ps.lookup n = none := by
  rw [List.lookup_eq_none_iff]
  intro p hp
  have := h p hp
  simp
  omega

theorem lookup_register_self (hw : w.Sound) (cursor : κ) :
    (w.register cursor).cursors.lookup w.handedBack = some cursor := by
  rw [register, List.lookup_append, lookup_eq_none_of_lt hw.cursors_lt, Option.none_or,
    List.lookup_cons, beq_self_eq_true]

/-! ### The journal -/

@[simp] theorem advances_note (call : EngineCall κ) (failure : Option EngineError) (s : σ)
    (n : Nat) : (w.note call failure s).advances n =
      w.advances n + if JournalEntry.moves ⟨call, failure⟩ n then 1 else 0 :=
  List.countP_cons

@[simp] theorem advances_keep (m n : Nat) (cursor : κ) :
    (w.keep m cursor).advances n = w.advances n := rfl

@[simp] theorem advances_forget (m n : Nat) : (w.forget m).advances n = w.advances n := rfl

@[simp] theorem advances_register (n : Nat) (cursor : κ) :
    (w.register cursor).advances n = w.advances n := rfl

@[simp] theorem advances_skip (n : Nat) : w.skip.advances n = w.advances n := rfl

/-- Nothing is on record of a number that has not been given out. -/
theorem Sound.advances_eq_zero (hw : w.Sound) {n : Nat} (h : w.handedBack ≤ n) :
    w.advances n = 0 := by
  rw [advances, List.countP_eq_zero]
  intro e he hmoves
  have hlt := hw.journal_lt e he n
  obtain ⟨call, failure⟩ := e
  cases call with
  | advance m =>
    cases failure with
    | none =>
      obtain rfl : m = n := by simpa [JournalEntry.moves] using hmoves
      have := hlt rfl
      omega
    | some _ => cases hmoves
  | _ => cases hmoves

/-! ### Numbers stay sound -/

theorem Sound.start (session : σ) (closeOnDrop : Bool) :
    (Worker.start session closeOnDrop : Worker σ κ).Sound :=
  ⟨List.nodup_nil, nofun, nofun⟩

theorem Sound.note (hw : w.Sound) {call : EngineCall κ}
    (h : ∀ n, call.cursor? = some n → n < w.handedBack) (failure : Option EngineError) (s : σ) :
    (w.note call failure s).Sound :=
  ⟨hw.nodup, hw.cursors_lt, List.forall_mem_cons.mpr ⟨h, hw.journal_lt⟩⟩

/-- A call that concerns no cursor can go on record at any time. -/
theorem Sound.note_of_none (hw : w.Sound) {call : EngineCall κ} (h : call.cursor? = none)
    (failure : Option EngineError) (s : σ) : (w.note call failure s).Sound := by
  refine hw.note (fun n hn => ?_) failure s
  rw [h] at hn
  cases hn

theorem map_fst_keep (n : Nat) (cursor : κ) :
    (w.keep n cursor).cursors.map Prod.fst = w.cursors.map Prod.fst := by
  rw [keep, List.map_map]
  refine List.map_congr_left fun p _ => ?_
  rw [Function.comp_apply]
  split_ifs with hp
  · exact hp.symm
  · rfl

theorem Sound.keep (hw : w.Sound) (n : Nat) (cursor : κ) : (w.keep n cursor).Sound := by
  refine ⟨?_, fun p hp => ?_, hw.journal_lt⟩
  · rw [map_fst_keep]
    exact hw.nodup
  · have hmem : p.1 ∈ w.cursors.map Prod.fst := by
      rw [← map_fst_keep n cursor]
      exact List.mem_map_of_mem hp
    obtain ⟨q, hq, hqp⟩ := List.mem_map.mp hmem
    rw [← hqp]
    exact hw.cursors_lt q hq

theorem Sound.forget (hw : w.Sound) (n : Nat) : (w.forget n).Sound :=
  ⟨hw.nodup.sublist (List.filter_sublist.map _),
    fun p hp => hw.cursors_lt p (List.mem_filter.mp hp).1, hw.journal_lt⟩

theorem Sound.skip (hw : w.Sound) : w.skip.Sound :=
  ⟨hw.nodup, fun p hp => Nat.lt_succ_of_lt (hw.cursors_lt p hp),
    fun e he n hn => Nat.lt_succ_of_lt (hw.journal_lt e he n hn)⟩

theorem Sound.register (hw : w.Sound) (cursor : κ) : (w.register cursor).Sound := by
  refine ⟨?_, fun p hp => ?_, fun e he n hn => Nat.lt_succ_of_lt (hw.journal_lt e he n hn)⟩
  · rw [Worker.register, List.map_append, List.nodup_append]
    refine ⟨hw.nodup, (by simp), fun a ha b hb => ?_⟩
    obtain ⟨p, hp, rfl⟩ := List.mem_map.mp ha
    rw [List.mem_singleton.mp hb]
    exact Nat.ne_of_lt (hw.cursors_lt p hp)
  · rcases List.mem_append.mp hp with hp | hp
    · exact Nat.lt_succ_of_lt (hw.cursors_lt p hp)
    · rw [List.mem_singleton.mp hp]
      exact Nat.lt_succ_self _

variable {x : Execution} {r : Except Error Outcome × Worker σ κ}

theorem Executed.sound (hr : Executed E x w r) (hw : w.Sound) : r.2.Sound := by
  have hprepared : ∀ f s, (w.note (.prepare x.sql x.parameters) f s).Sound :=
    fun f s => hw.note_of_none rfl f s
  cases hr with
  | prepareFailed _ => exact hprepared _ _
  | queryFailed _ _ _ => exact (hprepared _ _).note_of_none rfl _ _
  | rows _ _ _ => exact ((hprepared _ _).note_of_none rfl _ _).register _
  | updateFailed _ _ _ => exact (hprepared _ _).note_of_none rfl _ _
  | update _ _ _ => exact (hprepared _ _).note_of_none rfl _ _
  | updateWithKeys _ _ _ _ => exact ((hprepared _ _).note_of_none rfl _ _).register _
  | updateDiscarding _ _ _ _ _ =>
    -- the number is given out before the call that closes the cursor is on record
    refine ((hprepared _ _).note_of_none rfl _ _).skip.note (fun n hn => ?_) _ _
    rw [← Option.some.inj hn]
    exact Nat.lt_succ_self _

theorem Executed.handedBack_le (hr : Executed E x w r) : w.handedBack ≤ r.2.handedBack := by
  cases hr with
  | rows | updateWithKeys | updateDiscarding => exact Nat.le_succ _
  | prepareFailed | queryFailed | updateFailed | update => exact Nat.le_refl _

theorem Executed.ended_eq (hr : Executed E x w r) : r.2.ended = w.ended := by
  cases hr <;> rfl

/-- An execution leaves the cursors alone that are there already. -/
theorem Executed.untouched (hr : Executed E x w r) {n : Nat} (hn : n < w.handedBack) :
    Untouched n w r.2 := by
  have hne : n ≠ w.handedBack := Nat.ne_of_lt hn
  cases hr with
  | rows | updateWithKeys =>
    exact ⟨lookup_register_of_ne hne _, by simp [prepared, JournalEntry.moves]⟩
  | prepareFailed | queryFailed | updateFailed | update | updateDiscarding =>
    exact ⟨rfl, by simp [prepared, JournalEntry.moves]⟩

section Fetch

variable {number : Nat} {cursor : κ} {f : Except Error (Option (List Value)) × Worker σ κ}

theorem Fetched.sound (hf : Fetched E number cursor w f) (hw : w.Sound)
    (hlt : number < w.handedBack) : f.2.Sound := by
  have hown : ∀ n, some number = some n → n < w.handedBack := by
    rintro n ⟨⟩
    exact hlt
  have hasNext : ∀ f s, (w.note (.hasNext number) f s).Sound :=
    fun f s => hw.note (by exact hown) f s
  have advance : ∀ f s f' s', ((w.note (.hasNext number) f s).note (.advance number) f' s').Sound :=
    fun f s f' s' => (hasNext f s).note (by exact hown) f' s'
  cases hf with
  | hasNextFailed _ _ | exhausted _ _ | closeFailed _ _ =>
    exact ((hasNext _ _).forget _).note (by exact hown) _ _
  | advanceFailed _ _ _ => exact ((advance _ _ _ _).forget _).note (by exact hown) _ _
  | row _ _ => exact (advance _ _ _ _).keep _ _

theorem Fetched.handedBack_eq (hf : Fetched E number cursor w f) :
    f.2.handedBack = w.handedBack := by
  cases hf <;> rfl

theorem Fetched.ended_eq (hf : Fetched E number cursor w f) : f.2.ended = w.ended := by
  cases hf <;> rfl

/-- A fetch leaves all other cursors alone. -/
theorem Fetched.untouched (hf : Fetched E number cursor w f) {n : Nat} (hn : n ≠ number) :
    Untouched n w f.2 := by
  have hne : (number == n) = false := beq_false_of_ne hn.symm
  cases hf with
  | hasNextFailed | exhausted | closeFailed | advanceFailed =>
    exact ⟨lookup_forget_of_ne hn, by simp [JournalEntry.moves]⟩
  | row => exact ⟨lookup_keep_of_ne hn _, by simp [JournalEntry.moves, hne]⟩

end Fetch

/-! ### Fetches from any cursor -/

theorem fetch_of_lookup_eq_none (h : w.ended = false) {number : Nat}
    (hnone : w.cursors.lookup number = none) :
    w.fetch E number = (.error (.cursorClosed number), w) := by
  rw [fetch, unlessEnded, h, if_neg Bool.false_ne_true, hnone]

section AnyFetch

variable (E) (h : w.ended = false) (number : Nat)

include h

theorem Sound.fetch (hw : w.Sound) {number : Nat} (hlt : number < w.handedBack) :
    (w.fetch E number).2.Sound := by
  cases hl : w.cursors.lookup number with
  | none =>
    rw [fetch_of_lookup_eq_none h hl]
    exact hw
  | some cursor => exact (fetched E h hl).sound hw hlt

theorem handedBack_fetch : (w.fetch E number).2.handedBack = w.handedBack := by
  cases hl : w.cursors.lookup number with
  | none => rw [fetch_of_lookup_eq_none h hl]
  | some cursor => exact (fetched E h hl).handedBack_eq

theorem ended_fetch : (w.fetch E number).2.ended = false := by
  cases hl : w.cursors.lookup number with
  | none => rwa [fetch_of_lookup_eq_none h hl]
  | some cursor => rw [(fetched E h hl).ended_eq, h]

theorem untouched_fetch {number n : Nat} (hn : n ≠ number) :
    Untouched n w (w.fetch E number).2 := by
  cases hl : w.cursors.lookup number with
  | none =>
    rw [fetch_of_lookup_eq_none h hl]
    exact ⟨rfl, rfl⟩
  | some cursor => exact (fetched E h hl).untouched hn

theorem openCursors_eq : w.openCursors = (.ok w.cursors.length, w) := by
  rw [openCursors, unlessEnded, h, if_neg Bool.false_ne_true]

end AnyFetch

end Worker

end SqlClient
