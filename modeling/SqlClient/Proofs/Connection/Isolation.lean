import SqlClient.Engine.Scripted
import SqlClient.Proofs.Connection.Usage

/-!
# Cursors do not mix

Whatever happens on a connection in between, the polls of a row stream bring what its cursor brings
in the sessions in which it is asked. Where what a cursor answers depends on nothing but the cursor,
that is what it would bring on its own: its rows in their order, then the failure that stops it, if
any, and then nothing more. No row is fetched before somebody asks for it.
-/

namespace SqlClient

variable {σ π κ : Type}

/-! ### A cursor on its own -/

namespace Engine

variable (E : Engine σ π κ)

/-- What a cursor answers depends on nothing but the cursor. -/
structure StandAlone : Prop where
  hasNext : ∀ cursor s t, (E.hasNext cursor s).1 = (E.hasNext cursor t).1 ∧
    (E.hasNext cursor s).2.1 = (E.hasNext cursor t).2.1
  advance : ∀ cursor s t, (E.advance cursor s).1 = (E.advance cursor t).1 ∧
    (E.advance cursor s).2.1 = (E.advance cursor t).2.1
  row : ∀ cursor s t, E.row cursor s = E.row cursor t
  closeCursor : ∀ cursor s t, (E.closeCursor cursor s).1 = (E.closeCursor cursor t).1

/-- The cursor that an execution hands back to be read, and the session after it. -/
def handsBack (x : Execution) (s : σ) : Option (κ × σ) :=
  match E.prepare x.sql x.parameters s with
  | (.error _, _) => none
  | (.ok command, s) =>
    if E.isQuery command then
      match E.query command x.maxRows s with
      | (.ok cursor, s) => some (cursor, s)
      | (.error _, _) => none
    else if x.keys.requested then
      match E.update command x.keys s with
      | (.ok ⟨_, some cursor⟩, s) => some (cursor, s)
      | _ => none
    else none

/-- What a cursor brings when it is asked for a row, and what is left of it. -/
def delivery (s : σ) : Option κ → Poll (Except Error (List Value)) × Option κ
  | none => (.ended, none)
  | some cursor =>
    match E.hasNext cursor s with
    | (.error e, _, _) => (.item (.error e), none)
    | (.ok false, cursor, s) =>
      match E.closeCursor cursor s with
      | (.error e, _) => (.item (.error e), none)
      | (.ok (), _) => (.ended, none)
    | (.ok true, cursor, s) =>
      match E.advance cursor s with
      | (.error e, _, _) => (.item (.error e), none)
      | (.ok (), cursor, s) => (.item (.ok (E.row cursor s)), some cursor)

/-- What a cursor brings when it is asked so many times. -/
def deliveries (s : σ) (left : Option κ) : Nat → List (Poll (Except Error (List Value)))
  | 0 => []
  | n + 1 =>
    let now := E.delivery s left
    now.1 :: deliveries s now.2 n

/-- What a cursor brings when it is asked once in each of these sessions, in turn. -/
def deliveriesIn (left : Option κ) : List σ → List (Poll (Except Error (List Value)))
  | [] => []
  | s :: later => (E.delivery s left).1 :: deliveriesIn (E.delivery s left).2 later

variable {E}

theorem StandAlone.delivery_eq (h : E.StandAlone) (s t : σ) (left : Option κ) :
    E.delivery s left = E.delivery t left := by
  cases left with
  | none => rfl
  | some cursor =>
    obtain ⟨hanswer, hcursor⟩ := h.hasNext cursor s t
    rcases hs : E.hasNext cursor s with ⟨answer, k, s'⟩
    rcases ht : E.hasNext cursor t with ⟨answer', k', t'⟩
    rw [hs, ht] at hanswer hcursor
    obtain rfl : answer = answer' := hanswer
    obtain rfl : k = k' := hcursor
    rcases answer with e | _ | _
    · simp only [delivery, hs, ht]
    · have hclosed := h.closeCursor k s' t'
      rcases hs' : E.closeCursor k s' with ⟨closed, s''⟩
      rcases ht' : E.closeCursor k t' with ⟨closed', t''⟩
      rw [hs', ht'] at hclosed
      obtain rfl : closed = closed' := hclosed
      rcases closed with e | _ <;> simp only [delivery, hs, ht, hs', ht']
    · obtain ⟨hmoved, hnext⟩ := h.advance k s' t'
      rcases hs' : E.advance k s' with ⟨moved, l, s''⟩
      rcases ht' : E.advance k t' with ⟨moved', l', t''⟩
      rw [hs', ht'] at hmoved hnext
      obtain rfl : moved = moved' := hmoved
      obtain rfl : l = l' := hnext
      rcases moved with e | _
      · simp only [delivery, hs, ht, hs', ht']
      · simp only [delivery, hs, ht, hs', ht', h.row l s'' t'']

/-- In which sessions such a cursor is asked makes no difference. -/
theorem StandAlone.deliveriesIn_eq (h : E.StandAlone) (s : σ) (left : Option κ)
    (sessions : List σ) : E.deliveriesIn left sessions = E.deliveries s left sessions.length := by
  induction sessions generalizing left with
  | nil => rfl
  | cons t later ih =>
    rw [deliveriesIn, h.delivery_eq t s, ih]
    rfl

end Engine

/-- Whether a poll brings an item that is no error. -/
def Poll.isOk {ε α : Type} : Poll (Except ε α) → Bool
  | .item (.ok _) => true
  | _ => false

/-- What a poll of the stream shows of what the cursor brings. -/
def RowStream.shown (c : Connection σ π κ) (s : RowStream) :
    Poll (Except Error (List Value)) → RowPoll :=
  Poll.map (Except.map fun values => ⟨values, s.metadata, c.conversions⟩)

@[simp] theorem RowStream.isOk_shown (c : Connection σ π κ) (s : RowStream)
    (p : Poll (Except Error (List Value))) : (s.shown c p).isOk = p.isOk := by
  rcases p with (_ | _) | _ | _ <;> rfl

/-- How many times the stream is polled before it is dropped. -/
def pollsOf (i : Nat) : List Action → Nat
  | [] => 0
  | .poll j :: later => if j = i then pollsOf i later + 1 else pollsOf i later
  | .drop j :: later | .abandon j :: later => if j = i then 0 else pollsOf i later
  | .execute _ :: later | .countCursors :: later | .close :: later => pollsOf i later

/-- Cursors of scripts follow nothing but their scripts. -/
theorem Scripted.standAlone : Scripted.engine.StandAlone :=
  ⟨fun _ _ _ => ⟨rfl, rfl⟩, fun _ _ _ => ⟨rfl, rfl⟩, fun _ _ _ => rfl, fun _ _ _ => rfl⟩

/-! ### One fetch -/

/-- What a fetch answers, as a delivery of a cursor that has become `next`. -/
def delivered (next : Option κ) :
    Except Error (Option (List Value)) → Poll (Except Error (List Value)) × Option κ
  | .ok (some values) => (.item (.ok values), next)
  | .ok none => (.ended, none)
  | .error e => (.item (.error e), none)

/-- A fetch delivers what the cursor brings, and the table has what is left of it. -/
theorem Worker.Fetched.delivery {E : Engine σ π κ} {number : Nat} {cursor : κ} {w : Worker σ κ}
    {f : Except Error (Option (List Value)) × Worker σ κ} (hf : Fetched E number cursor w f)
    (hcursor : w.cursors.lookup number = some cursor) :
    ∃ next, E.delivery w.session (some cursor) = delivered (some next) f.1 ∧
      (∀ values, f.1 = .ok (some values) → f.2.cursors.lookup number = some next) := by
  cases hf with
  | hasNextFailed hn _ =>
    refine ⟨cursor, ?_, nofun⟩
    simp only [Engine.delivery, hn, delivered]
  | exhausted hn hc | closeFailed hn hc =>
    refine ⟨cursor, ?_, nofun⟩
    simp only [Engine.delivery, hn, hc, delivered]
  | advanceFailed hn ha _ =>
    refine ⟨cursor, ?_, nofun⟩
    simp only [Engine.delivery, hn, ha, delivered]
  | @row _ next _ _ hn ha =>
    refine ⟨next, ?_, fun _ _ => lookup_keep_self (by exact hcursor) next⟩
    simp only [Engine.delivery, hn, ha, delivered]

/-- A cursor moves on for a row that is delivered and for nothing else. -/
theorem Worker.Fetched.advances_eq {E : Engine σ π κ} {number : Nat} {cursor : κ} {w : Worker σ κ}
    {f : Except Error (Option (List Value)) × Worker σ κ} (hf : Fetched E number cursor w f) :
    f.2.advances number = w.advances number +
      if (E.delivery w.session (some cursor)).1.isOk then 1 else 0 := by
  cases hf with
  | hasNextFailed hn _ => simp [Engine.delivery, hn, JournalEntry.moves, Poll.isOk]
  | exhausted hn hc | closeFailed hn hc =>
    simp [Engine.delivery, hn, hc, JournalEntry.moves, Poll.isOk]
  | advanceFailed hn ha _ => simp [Engine.delivery, hn, ha, JournalEntry.moves, Poll.isOk]
  | row hn ha => simp [Engine.delivery, hn, ha, JournalEntry.moves, Poll.isOk]

/-! ### One execution -/

/-- A cursor that is handed back to be read is registered, and a stream over it is opened. -/
theorem Worker.Executed.of_handsBack {E : Engine σ π κ} {x : Execution} {w : Worker σ κ}
    {r : Except Error Outcome × Worker σ κ} (hr : Executed E x w r) (hw : w.Sound) {cursor : κ}
    {session : σ} (hx : E.handsBack x w.session = some (cursor, session)) (registry : Registry) :
    opened registry r.1 = [.ofCursor registry w.handedBack (E.columns cursor session)] ∧
      r.2.cursors.lookup w.handedBack = some cursor ∧ r.2.advances w.handedBack = 0 := by
  have hzero := hw.advances_eq_zero (Nat.le_refl w.handedBack)
  have hprepared : ∀ s, (w.prepared x s).Sound := fun s => hw.note_of_none rfl _ _
  cases hr with
  | prepareFailed hp => simp [Engine.handsBack, hp] at hx
  | queryFailed hp hq hr => simp [Engine.handsBack, hp, hq, hr] at hx
  | rows hp hq hr =>
    obtain ⟨rfl, rfl⟩ : _ = cursor ∧ _ = session := by simpa [Engine.handsBack, hp, hq, hr] using hx
    refine ⟨rfl, lookup_register_self ((hprepared _).note_of_none rfl _ _) _, ?_⟩
    simp [prepared, JournalEntry.moves, hzero]
  | updateFailed hp hq hr => simp [Engine.handsBack, hp, hq, hr] at hx
  | update hp hq hr => simp [Engine.handsBack, hp, hq, hr] at hx
  | updateWithKeys hp hq hr hk =>
    obtain ⟨rfl, rfl⟩ : _ = cursor ∧ _ = session := by
      simpa [Engine.handsBack, hp, hq, hr, hk] using hx
    refine ⟨rfl, lookup_register_self ((hprepared _).note_of_none rfl _ _) _, ?_⟩
    simp [prepared, JournalEntry.moves, hzero]
  | updateDiscarding hp hq _ hk _ => simp [Engine.handsBack, hp, hq, hk] at hx

theorem Worker.Executed.opened_eq_nil {E : Engine σ π κ} {x : Execution} {w : Worker σ κ}
    {r : Except Error Outcome × Worker σ κ} (hr : Executed E x w r)
    (hx : E.handsBack x w.session = none) {registry : Registry} : opened registry r.1 = [] := by
  cases hr with
  | rows hp hq hr => simp [Engine.handsBack, hp, hq, hr] at hx
  | updateWithKeys hp hq hr hk => simp [Engine.handsBack, hp, hq, hr, hk] at hx
  | prepareFailed | queryFailed | updateFailed | update | updateDiscarding => rfl

namespace Usage

variable {c : Connection σ π κ} {u : Usage σ κ} {i : Nat}

/-! ### One poll -/

/-- The stream is in its place, with this much left of its cursor. -/
structure Reads (u : Usage σ κ) (i : Nat) (s : RowStream) (left : Option κ) : Prop where
  stream?_eq : u.stream? i = some { s with done := left.isNone }
  lookup_eq : ∀ cursor, left = some cursor → u.worker.cursors.lookup s.cursor = some cursor

variable {s : RowStream} {left : Option κ}

theorem Reads.of_done (h : u.stream? i = some { s with done := true }) : u.Reads i s none :=
  ⟨h, fun _ hleft => absurd hleft.symm (Option.some_ne_none _)⟩

/-- A poll of a stream brings what is next of its cursor. -/
theorem Reads.poll (hr : u.Reads i s left) (h : u.Open) :
    (u.step c (.poll i)).1 = some (i, s.shown c (c.engine.delivery u.worker.session left).1) ∧
      (u.step c (.poll i)).2.Reads i s (c.engine.delivery u.worker.session left).2 := by
  have hi := index_lt_of_stream? hr.stream?_eq
  rw [step, hr.stream?_eq]
  cases left with
  | none =>
    dsimp only
    rw [poll_of_done rfl]
    exact ⟨rfl, .of_done (stream?_set_self hi)⟩
  | some cursor =>
    have hl := hr.lookup_eq cursor rfl
    obtain ⟨next, hd, hnext⟩ := (Worker.fetched c.engine h.running hl).delivery hl
    rw [hd]
    simp only [RowStream.source, Option.isNone_some, Bool.false_eq_true, if_false]
    rcases hf : u.worker.fetch c.engine s.cursor with ⟨e | _ | values, w⟩
    · exact ⟨rfl, .of_done (stream?_set_self hi)⟩
    · exact ⟨rfl, .of_done (stream?_set_self hi)⟩
    · rw [hf] at hnext
      refine ⟨rfl, stream?_set_self hi, fun k hk => ?_⟩
      rw [← hk]
      exact hnext values rfl

/-- The cursor has moved on as often as rows have come. -/
theorem Reads.advances_poll (hr : u.Reads i s left) (h : u.Open) :
    (u.step c (.poll i)).2.worker.advances s.cursor = u.worker.advances s.cursor +
      if (c.engine.delivery u.worker.session left).1.isOk then 1 else 0 := by
  rw [step, hr.stream?_eq]
  cases left with
  | none =>
    dsimp only
    rw [poll_of_done rfl]
    rfl
  | some cursor =>
    dsimp only
    rw [poll_worker rfl]
    exact (Worker.fetched c.engine h.running (hr.lookup_eq cursor rfl)).advances_eq

/-! ### Runs -/

theorem broughtBy_append (polls polls' : List (Nat × RowPoll)) :
    broughtBy i (polls ++ polls') = broughtBy i polls ++ broughtBy i polls' := by
  rw [broughtBy, List.filter_append, List.map_append, broughtBy, broughtBy]

theorem broughtBy_singleton (poll : RowPoll) : broughtBy i [(i, poll)] = [poll] := by
  simp [broughtBy]

theorem broughtBy_run_cons (action : Action) (later : List Action) :
    broughtBy i (u.run c (action :: later)).1 =
      broughtBy i (u.step c action).1.toList ++ broughtBy i ((u.step c action).2.run c later).1 :=
  broughtBy_append _ _

theorem broughtBy_step_of_ne {action : Action} (hi : action.stream? ≠ some i) :
    broughtBy i (u.step c action).1.toList = [] := by
  cases action with
  | poll j =>
    have hj : j ≠ i := fun hj => hi (congrArg some hj)
    rw [step]
    cases u.stream? j with
    | none => rfl
    | some s => simp [broughtBy, hj]
  | abandon j =>
    rw [step]
    cases u.stream? j <;> rfl
  | execute _ | countCursors | drop _ | close => rfl

/-- The sessions in which the stream is polled before it is dropped. -/
def sessionsOf (c : Connection σ π κ) (i : Nat) (u : Usage σ κ) : List Action → List σ
  | [] => []
  | .poll j :: later =>
    let rest := sessionsOf c i (u.step c (.poll j)).2 later
    if j = i then u.worker.session :: rest else rest
  | .drop j :: later => if j = i then [] else sessionsOf c i (u.step c (.drop j)).2 later
  | .abandon j :: later => if j = i then [] else sessionsOf c i (u.step c (.abandon j)).2 later
  | action :: later => sessionsOf c i (u.step c action).2 later

theorem length_sessionsOf (actions : List Action) :
    (sessionsOf c i u actions).length = pollsOf i actions := by
  induction actions generalizing u with
  | nil => rfl
  | cons action later ih =>
    cases action with
    | poll j =>
      rw [sessionsOf, pollsOf]
      split_ifs
      · exact congrArg Nat.succ ih
      · exact ih
    | drop j | abandon j =>
      rw [sessionsOf, pollsOf]
      split_ifs
      · rfl
      · exact ih
    | execute _ | countCursors | close => exact ih

theorem sessionsOf_cons_of_ne {action : Action} (hi : action.stream? ≠ some i)
    (later : List Action) :
    sessionsOf c i u (action :: later) = sessionsOf c i (u.step c action).2 later := by
  cases action with
  | poll j | drop j | abandon j =>
    have hj : j ≠ i := fun hj => hi (congrArg some hj)
    rw [sessionsOf, if_neg hj]
  | execute _ | countCursors | close => rfl

theorem sessionsOf_cons_of_drop {action : Action} (hdrop : action = .drop i ∨ action = .abandon i)
    (later : List Action) : sessionsOf c i u (action :: later) = [] := by
  rcases hdrop with rfl | rfl <;> rw [sessionsOf, if_pos rfl]

/-- A stream that is gone stays gone, and nothing is done with its cursor. -/
theorem Owns.step_of_gone {number : Nat} (ho : u.Owns i number) (h : u.Open)
    (hgone : u.stream? i = none) {action : Action} (ha : action ≠ .close) :
    broughtBy i (u.step c action).1.toList = [] ∧ (u.step c action).2.stream? i = none ∧
      (u.step c action).2.worker.advances number = u.worker.advances number := by
  rcases action.about i with rfl | (rfl | rfl) | hi
  · rw [Usage.step, hgone]
    exact ⟨rfl, hgone, rfl⟩
  · exact ⟨rfl, stream?_set_self ho.index_lt, rfl⟩
  · rw [Usage.step, hgone]
    exact ⟨rfl, hgone, rfl⟩
  · obtain ⟨hw, hs⟩ := ho.untouched h ha hi
    exact ⟨broughtBy_step_of_ne hi, hs.trans hgone, hw.advances_eq⟩

theorem Owns.run_of_gone {number : Nat} (ho : u.Owns i number) (h : u.Open)
    (hgone : u.stream? i = none) {actions : List Action} (ha : .close ∉ actions) :
    broughtBy i (u.run c actions).1 = [] ∧
      (u.run c actions).2.worker.advances number = u.worker.advances number := by
  induction actions generalizing u with
  | nil => exact ⟨rfl, rfl⟩
  | cons action later ih =>
    rw [List.mem_cons, not_or] at ha
    obtain ⟨hpolls, hstill, hw⟩ := ho.step_of_gone h hgone (Ne.symm ha.1) (c := c)
    obtain ⟨hpolls', hw'⟩ := ih (ho.step h (Ne.symm ha.1)) (h.step (Ne.symm ha.1)) hstill ha.2
    refine ⟨?_, hw'.trans hw⟩
    rw [broughtBy_run_cons, hpolls, hpolls']
    rfl

/-- What is not about the stream leaves it where it is. -/
theorem Reads.step_of_ne (hr : u.Reads i s left) (ho : u.Owns i s.cursor) (h : u.Open)
    {action : Action} (ha : action ≠ .close) (hi : action.stream? ≠ some i) :
    (u.step c action).2.Reads i s left := by
  obtain ⟨hw, hs⟩ := ho.untouched h ha hi (c := c)
  refine ⟨hs.trans hr.stream?_eq, fun cursor hcursor => ?_⟩
  rw [hw.lookup_eq]
  exact hr.lookup_eq cursor hcursor

/-- A stream is gone once it is dropped. -/
theorem Reads.step_drop (hr : u.Reads i s left) {action : Action}
    (hdrop : action = .drop i ∨ action = .abandon i) :
    broughtBy i (u.step c action).1.toList = [] ∧ (u.step c action).2.stream? i = none := by
  have hi := index_lt_of_stream? hr.stream?_eq
  rcases hdrop with rfl | rfl
  · exact ⟨rfl, stream?_set_self hi⟩
  · rw [Usage.step, hr.stream?_eq]
    exact ⟨rfl, stream?_set_self hi⟩

/-- From any point on, the polls of a stream bring what is left of its cursor. -/
theorem Reads.broughtBy_run (hr : u.Reads i s left) (ho : u.Owns i s.cursor) (h : u.Open)
    {actions : List Action} (ha : .close ∉ actions) :
    broughtBy i (u.run c actions).1 =
      (c.engine.deliveriesIn left (sessionsOf c i u actions)).map (s.shown c) := by
  -- what is left of the cursor changes with the stream's own polls and with nothing else
  induction actions generalizing u left with
  | nil => rfl
  | cons action later ih =>
    rw [List.mem_cons, not_or] at ha
    have ho' := ho.step h (Ne.symm ha.1) (c := c)
    have h' := h.step (Ne.symm ha.1) (c := c)
    rw [broughtBy_run_cons]
    rcases action.about i with rfl | hdrop | hi
    · obtain ⟨hpoll, hr'⟩ := hr.poll h (c := c)
      rw [sessionsOf, if_pos rfl, Engine.deliveriesIn, List.map_cons, hpoll, ih hr' ho' h' ha.2,
        Option.toList_some, broughtBy_singleton]
      rfl
    · obtain ⟨hpolls, hgone⟩ := hr.step_drop hdrop (c := c)
      rw [hpolls, sessionsOf_cons_of_drop hdrop]
      exact (ho'.run_of_gone h' hgone ha.2).1
    · rw [broughtBy_step_of_ne hi, sessionsOf_cons_of_ne hi]
      exact ih (hr.step_of_ne ho h (Ne.symm ha.1) hi) ho' h' ha.2

/-- As long as nobody leaves a poll of the stream unanswered, its cursor moves on for the rows that
the stream brings and for nothing else. -/
theorem Reads.advances_run (hr : u.Reads i s left) (ho : u.Owns i s.cursor) (h : u.Open)
    {actions : List Action} (ha : .close ∉ actions) (hi : .abandon i ∉ actions) :
    (u.run c actions).2.worker.advances s.cursor =
      u.worker.advances s.cursor + (broughtBy i (u.run c actions).1).countP Poll.isOk := by
  induction actions generalizing u left with
  | nil => rfl
  | cons action later ih =>
    rw [List.mem_cons, not_or] at ha hi
    have ho' := ho.step h (Ne.symm ha.1) (c := c)
    have h' := h.step (Ne.symm ha.1) (c := c)
    rw [broughtBy_run_cons, List.countP_append]
    rcases action.about i with rfl | (rfl | rfl) | hown
    · obtain ⟨hpoll, hr'⟩ := hr.poll h (c := c)
      have hrest := ih hr' ho' h' ha.2 hi.2
      rw [hr.advances_poll h] at hrest
      rw [hpoll, Option.toList_some, broughtBy_singleton, List.countP_singleton,
        RowStream.isOk_shown, ← Nat.add_assoc]
      exact hrest
    · obtain ⟨hpolls, hgone⟩ := hr.step_drop (.inl rfl) (c := c)
      obtain ⟨hrest, hw⟩ := ho'.run_of_gone h' hgone ha.2
      rw [hpolls, hrest]
      exact hw
    · exact absurd rfl hi.1
    · rw [broughtBy_step_of_ne hown, List.countP_nil, Nat.zero_add,
        ← (ho.untouched h (Ne.symm ha.1) hown (c := c)).1.advances_eq]
      exact ih (hr.step_of_ne ho h (Ne.symm ha.1) hown) ho' h' ha.2 hi.2

/-- A stream starts in its place, at the cursor that the execution has handed back. -/
theorem Open.execute_reads (h : u.Open) {x : Execution} {cursor : κ} {session : σ}
    (hx : c.engine.handsBack x u.worker.session = some (cursor, session)) :
    let s := RowStream.ofCursor c.conversions.registry u.worker.handedBack
      (c.engine.columns cursor session)
    let v := (u.step c (.execute x)).2
    v.Reads u.streams.length s (some cursor) ∧ v.Owns u.streams.length s.cursor ∧
      v.worker.advances s.cursor = 0 := by
  intro s v
  have hr := Worker.executed c.engine h.running x
  obtain ⟨hopened, hlookup, hzero⟩ := hr.of_handsBack h.worker hx c.conversions.registry
  have hv : v.streams = u.streams ++ [some s] := by
    rw [show v.streams = u.streams ++ _ from rfl, hopened]
    rfl
  have hs : v.stream? u.streams.length = some s := by
    rw [stream?, hv, List.getElem?_concat_length, Option.join_some]
  have hlt : s.cursor < v.worker.handedBack := by
    have hs : s ∈ opened c.conversions.registry (u.worker.execute c.engine x).1 := by
      rw [hopened]
      exact List.mem_singleton_self s
    exact (opened_of_executed hr hs).2
  refine ⟨⟨hs, fun k hk => ?_⟩, ⟨hlt, index_lt_of_stream? hs, fun j t ht hn => ?_⟩, hzero⟩
  · rw [← hk]
    exact hlookup
  · have hj := index_lt_of_stream? ht
    rw [hv, List.length_append, List.length_singleton] at hj
    rcases Nat.lt_or_ge j u.streams.length with hlt | hge
    · -- a stream that was there before reads an older cursor
      have hold : u.stream? j = some t := (stream?_append_of_lt hlt).symm.trans ht
      exact absurd hn (Nat.ne_of_lt (h.cursor_lt j t hold))
    · exact Nat.le_antisymm (Nat.le_of_lt_succ hj) hge

/-- An execution that hands back no cursor opens no stream. The polls of a stream that it does open
bring what that cursor brings in the sessions of these polls, whatever else happens on the
connection, and the cursor has moved on once for each row that the stream has brought. -/
theorem polls_follow_cursor (c : Connection σ π κ) (session : σ) (closeOnDrop : Bool)
    (before after : List Action) (hbefore : .close ∉ before) (hafter : .close ∉ after)
    (x : Execution) :
    let u := ((start session closeOnDrop).run c before).2
    let v := (u.step c (.execute x)).2
    match c.engine.handsBack x u.worker.session with
    | none => v.streams = u.streams
    | some (cursor, session') =>
      let i := u.streams.length
      let s := RowStream.ofCursor c.conversions.registry u.worker.handedBack
        (c.engine.columns cursor session')
      let r := v.run c after
      broughtBy i r.1 =
          (c.engine.deliveriesIn (some cursor) (sessionsOf c i v after)).map (s.shown c) ∧
        (.abandon i ∉ after →
          r.2.worker.advances s.cursor = (broughtBy i r.1).countP Poll.isOk) := by
  intro u v
  have h : u.Open := (Open.start session closeOnDrop).run hbefore
  have h' : v.Open := h.step nofun
  cases hx : c.engine.handsBack x u.worker.session with
  | none =>
    have hr := Worker.executed c.engine h.running x
    rw [show v.streams = u.streams ++ _ from rfl, hr.opened_eq_nil hx, List.map_nil,
      List.append_nil]
  | some handed =>
    obtain ⟨hr, ho, hzero⟩ := h.execute_reads hx
    refine ⟨hr.broughtBy_run ho h' hafter, fun hi => ?_⟩
    rw [hr.advances_run ho h' hafter hi, hzero, Nat.zero_add]

/-- An execution that hands back no cursor opens no stream. The polls of a stream that it does open
bring the rows of that cursor, in their order, then the failure that stops the cursor, if any, and
then nothing more, whatever else happens on the connection. At every moment the cursor has moved on
once for each row that the stream has brought. -/
theorem cursor_isolation (c : Connection σ π κ) (alone : c.engine.StandAlone) (session : σ)
    (closeOnDrop : Bool) (before after : List Action) (hbefore : .close ∉ before)
    (hafter : .close ∉ after) (x : Execution) (anySession : σ) :
    let u := ((start session closeOnDrop).run c before).2
    let v := (u.step c (.execute x)).2
    match c.engine.handsBack x u.worker.session with
    | none => v.streams = u.streams
    | some (cursor, session') =>
      let i := u.streams.length
      let s := RowStream.ofCursor c.conversions.registry u.worker.handedBack
        (c.engine.columns cursor session')
      let r := v.run c after
      broughtBy i r.1 =
          (c.engine.deliveries anySession (some cursor) (pollsOf i after)).map (s.shown c) ∧
        (.abandon i ∉ after →
          r.2.worker.advances s.cursor = (broughtBy i r.1).countP Poll.isOk) := by
  simpa only [alone.deliveriesIn_eq anySession, length_sessionsOf] using
    polls_follow_cursor c session closeOnDrop before after hbefore hafter x

/-- Two streams polled in turn, the second of which fails after a row. -/
theorem cursor_isolation_of_two :
    let row (text : String) : List Value := [.varchar text]
    let script (rows : List (List Value)) (failAt : Option Scripted.FailureAt) :
        Scripted.CursorScript := ⟨[], rows, failAt, none, none, false⟩
    let session : Scripted.Session :=
      ⟨[⟨"a", false, .rows (script [row "a1", row "a2"] none)⟩,
        ⟨"b", false, .rows (script [row "b1", row "b2"] (some ⟨1, .general "lost"⟩))⟩],
        .update 0 none, ⟨none⟩, none, false⟩
    let c : Connection _ _ _ := ⟨Scripted.engine, ⟨.standard false, ⟨none⟩⟩, 0⟩
    let run (text : String) : Action := .execute ⟨text, [], .none, 0⟩
    let r := ((start session false).run c
      [run "a", run "b", .poll 1, .poll 0, run "b", .poll 1, .countCursors, .drop 0, .poll 1]).1
    (broughtBy 1 r).map (Poll.map (Except.map Row.values)) =
      [.item (.ok (row "b1")), .item (.error (.engine (.general "lost"))), .ended] := by
  intro row script session c run r
  have h := cursor_isolation c Scripted.standAlone session false [run "a"]
    [.poll 1, .poll 0, run "b", .poll 1, .countCursors, .drop 0, .poll 1] (by simp [run])
    (by simp [run]) ⟨"b", [], .none, 0⟩ session
  obtain ⟨hpolls, -⟩ := h
  exact congrArg (List.map _) hpolls

end Usage

end SqlClient
