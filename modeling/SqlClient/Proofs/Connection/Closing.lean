import SqlClient.Proofs.Connection.Traffic

/-!
# The first close

A worker that has served a close has ended. Everything that was asked after it, whether it was
already waiting then or nobody listened any more, is refused, and the engine sees nothing of it. The
session is closed once, by the close or by the last holder who leaves, after everything else.
-/

namespace SqlClient

variable {σ π κ : Type}

theorem Error.failureKind?_connection (message : String) :
    (Error.engine (.connection message)).failureKind? = some .nonTransientResource :=
  congrArg some (by decide : FailureKind.ofSqlState "08000" = .nonTransientResource)

namespace Answer

/-- The request was refused because the worker has ended, and the engine has seen nothing of it. -/
structure Refused (a : Answer κ) : Prop where
  calls_eq : a.calls = []
  reply_eq : ∃ e, a.reply = .refusal (.engine e) a.request ∧
    (Error.engine e).failureKind? = some .nonTransientResource

theorem refused_gone (number : Nat) (q : Request) :
    (⟨number, q, .refusal Worker.gone q, []⟩ : Answer κ).Refused :=
  ⟨rfl, _, rfl, Error.failureKind?_connection _⟩

theorem refused_abandonment (number : Nat) (q : Request) :
    (⟨number, q, .refusal q.abandonment q, []⟩ : Answer κ).Refused :=
  ⟨rfl, _, rfl, by cases q <;> exact Error.failureKind?_connection _⟩

end Answer

/-! ### Running, closed, left -/

namespace Traffic

variable {E : Engine σ π κ} {closeOnDrop : Bool} {t t' : Traffic σ κ}

/-- How far a connection is on its way to the end. -/
inductive Phase (closeOnDrop : Bool) (t : Traffic σ κ) : Prop
  | running : t.worker.ended = false → t.worker.closeOnDrop = closeOnDrop →
      t.worker.sessionCloses = 0 → (∀ a ∈ t.answers, a.request ≠ .close) → Phase closeOnDrop t
  /-- A close has been served, and everything after it refused. -/
  | closed (served late : List (Answer κ)) {close : Answer κ} : t.worker.ended = true →
      t.worker.Closed → t.farewell = [] → t.answers = served ++ close :: late →
      close.request = .close → (∀ a ∈ served, a.request ≠ .close) → (∀ a ∈ late, a.Refused) →
      Phase closeOnDrop t
  /-- Nobody has asked for a close, and nobody is left to ask. -/
  | left : t.worker.ended = true →
      (if closeOnDrop then t.worker.Closed else t.worker.sessionCloses = 0) →
      t.deserted = true → t.waiting = [] → (∀ a ∈ t.answers, a.request ≠ .close) →
      Phase closeOnDrop t

theorem Phase.start (session : σ) (closeOnDrop : Bool) :
    Phase closeOnDrop (Traffic.start session closeOnDrop : Traffic σ κ) :=
  .running rfl rfl rfl (List.forall_mem_nil _)

theorem Phase.of_running (h : Phase closeOnDrop t) (hrunning : t.worker.ended = false) :
    t.worker.closeOnDrop = closeOnDrop ∧ t.worker.sessionCloses = 0 ∧
      ∀ a ∈ t.answers, a.request ≠ .close := by
  cases h with
  | running _ hdrop hcloses hnone => exact ⟨hdrop, hcloses, hnone⟩
  | closed _ _ hended | left hended =>
    rw [hrunning] at hended
    cases hended

/-- A step without the worker leaves a connection in its phase. A connection that runs refuses
nothing, and one that the last holder has left is asked for nothing more. -/
theorem Phase.beside (h : Phase closeOnDrop t) (refused : List (Answer κ))
    (hanswers : t'.answers = t.answers ++ refused) (hrefused : ∀ a ∈ refused, a.Refused)
    (hworker : t'.worker = t.worker) (hfarewell : t'.farewell = t.farewell)
    (hrunning : t.worker.ended = false → refused = [])
    (hleft : t.deserted = true → t.waiting = [] →
      refused = [] ∧ t'.deserted = true ∧ t'.waiting = []) : Phase closeOnDrop t' := by
  rw [← hworker] at hrunning
  cases h with
  | running hended hdrop hcloses hnone =>
    rw [← hworker] at hended hdrop hcloses
    rw [hrunning hended, List.append_nil] at hanswers
    exact .running hended hdrop hcloses (hanswers ▸ hnone)
  | @closed served late close hended hclosed hnothing hsplit hclose hserved hlate =>
    rw [← hworker] at hended hclosed
    refine .closed served (late ++ refused) hended hclosed (hfarewell.trans hnothing) ?_ hclose
      hserved (List.forall_mem_append.mpr ⟨hlate, hrefused⟩)
    rw [hanswers, hsplit, List.append_assoc, List.cons_append]
  | left hended hcloses hdeserted hwaiting hnone =>
    rw [← hworker] at hended hcloses
    obtain ⟨rfl, hdeserted', hwaiting'⟩ := hleft hdeserted hwaiting
    rw [List.append_nil] at hanswers
    exact .left hended hcloses hdeserted' hwaiting' (hanswers ▸ hnone)

/-- A connection stays in its phase or goes on to the next. -/
theorem Phase.step (h : Phase closeOnDrop t) (ht : t.Sound) (hs : Stepped E t t') :
    Phase closeOnDrop t' := by
  -- only a request that is taken, or the last holder who leaves, leads out of a running phase
  cases hs with
  | idle => exact h
  | sent hheld =>
    refine h.beside [] (List.append_nil _).symm (List.forall_mem_nil _) rfl rfl (fun _ => rfl) ?_
    intro hdeserted
    rw [hheld] at hdeserted
    cases hdeserted
  | @refused q hheld hsilent =>
    have hrefused := List.forall_mem_singleton.mpr (Answer.refused_gone (κ := κ) t.made.length q)
    refine h.beside [_] rfl hrefused rfl rfl ?_ ?_
    · intro hrunning
      rw [(ht.silent hsilent).1] at hrunning
      cases hrunning
    · intro hdeserted
      rw [hheld] at hdeserted
      cases hdeserted
  | @taken q number rest hrunning _ =>
    obtain ⟨hdrop, hcloses, hnone⟩ := h.of_running hrunning
    by_cases hq : q = .close
    · subst hq
      have hworker : (t.take E .close number rest).worker = (t.worker.shutdown E).2 :=
        Worker.close_eq hrunning
      exact .closed t.answers [] (hworker ▸ rfl) (hworker ▸ Worker.closed_shutdown hcloses)
        (ht.farewell hrunning) rfl rfl hnone (List.forall_mem_nil _)
    · have hserved := Worker.served E hrunning q
      obtain ⟨hended, hkept⟩ := hserved.running hq
      have hanswered : ∀ a ∈ (t.take E q number rest).answers, a.request ≠ .close :=
        List.forall_mem_append.mpr ⟨hnone, List.forall_mem_singleton.mpr hq⟩
      exact .running (hended.trans hrunning) (hkept.trans hdrop)
        ((hserved.sessionCloses_eq hq).trans hcloses) hanswered
  | hungUp hended =>
    have hrefused := List.forall_mem_map.mpr fun (p : Request × Nat) (_ : p ∈ t.waiting) =>
      Answer.refused_abandonment (κ := κ) p.2 p.1
    refine h.beside _ rfl hrefused rfl rfl ?_ ?_
    · intro hrunning
      rw [hended] at hrunning
      cases hrunning
    · intro hdeserted hwaiting
      exact ⟨by rw [hwaiting, List.map_nil], hdeserted, rfl⟩
  | left hrunning hwaiting hdeserted =>
    obtain ⟨rfl, hcloses, hnone⟩ := h.of_running hrunning
    exact .left (Worker.ended_drop E t.worker) (Worker.closed_drop hrunning hcloses) hdeserted
      hwaiting hnone
  | deserted =>
    refine h.beside [] (List.append_nil _).symm (List.forall_mem_nil _) rfl rfl (fun _ => rfl) ?_
    intro _ hwaiting
    exact ⟨rfl, rfl, hwaiting⟩

theorem Phase.run (h : Phase closeOnDrop t) (ht : t.Sound) (events : List Event) :
    Phase closeOnDrop (t.run E events) :=
  (run_induction (P := fun t => t.Sound ∧ Phase closeOnDrop t) ⟨ht, h⟩
    (fun _ _ h hs => ⟨h.1.step hs, h.2.step h.1 hs⟩) events).2

/-- An answer after the one to a close is a refusal. -/
theorem Phase.refused_of_lt (h : Phase closeOnDrop t) {i j : Nat} {close a : Answer κ}
    (hclose : t.answers[i]? = some close) (hrequest : close.request = .close)
    (ha : t.answers[j]? = some a) (hlt : i < j) : a.Refused := by
  have hmem : close ∈ t.answers := List.mem_of_getElem? hclose
  cases h with
  | running _ _ _ hnone | left _ _ _ _ hnone => exact absurd hrequest (hnone close hmem)
  | closed served late _ _ _ hanswers _ hserved hlate =>
    have hlength : served.length ≤ i := by
      by_contra hlen
      rw [hanswers, List.getElem?_append_left (by omega)] at hclose
      exact hserved close (List.mem_of_getElem? hclose) hrequest
    obtain ⟨d, rfl⟩ : ∃ d, j = served.length + (d + 1) := ⟨j - served.length - 1, by omega⟩
    rw [hanswers, List.getElem?_append_right (by omega), Nat.add_sub_cancel_left,
      List.getElem?_cons_succ] at ha
    exact hlate a (List.mem_of_getElem? ha)

/-- A request that was made after a close, and that was answered, was refused. -/
theorem Phase.refused_of_made (h : Phase closeOnDrop t) (ht : t.Sound) {before later : List Request}
    (hmade : t.made = before ++ .close :: later) {a : Answer κ} (ha : a ∈ t.answers)
    (hlt : before.length < a.number) : a.Refused := by
  obtain ⟨j, hj⟩ := List.mem_iff_getElem?.mp ha
  rw [ht.number_eq hj] at hlt
  have hlength : j < t.answers.length := (List.getElem?_eq_some_iff.mp hj).1
  obtain ⟨close, hclose⟩ : ∃ close, t.answers[before.length]? = some close :=
    ⟨_, List.getElem?_eq_getElem (hlt.trans hlength)⟩
  have hrequest := ht.made_of_answer (List.mem_of_getElem? hclose)
  rw [ht.number_eq hclose, hmade, List.getElem?_append_right (Nat.le_refl _),
    Nat.sub_self] at hrequest
  exact h.refused_of_lt hclose (Option.some.inj hrequest).symm hj hlt

/-- Once a close has been answered, the worker has ended and there is no farewell. -/
theorem Phase.of_close (h : Phase closeOnDrop t) {a : Answer κ} (ha : a ∈ t.answers)
    (hrequest : a.request = .close) :
    t.worker.ended = true ∧ t.farewell = [] := by
  cases h with
  | running _ _ _ hnone | left _ _ _ _ hnone => exact absurd hrequest (hnone a ha)
  | closed _ _ hended _ hfarewell => exact ⟨hended, hfarewell⟩

theorem Phase.closed_or (h : Phase closeOnDrop t) :
    t.worker.Closed ∨ t.worker.sessionCloses = 0 := by
  cases h with
  | running _ _ hcloses => exact .inr hcloses
  | closed _ _ _ hclosed => exact .inl hclosed
  | left _ hcloses =>
    split_ifs at hcloses with hdrop
    · exact .inl hcloses
    · exact .inr hcloses

theorem Phase.sessionCloses_eq_one (h : Phase closeOnDrop t) :
    t.worker.sessionCloses = 1 ↔ t.worker.Closed := by
  refine ⟨fun hone => ?_, Worker.Closed.sessionCloses_eq⟩
  rcases h.closed_or with hclosed | hzero
  · exact hclosed
  · rw [hzero] at hone
    cases hone

/-- When nobody is left and the worker has ended, the session has been closed if somebody has asked
for it or the worker was told to. -/
theorem Phase.closed_iff (h : Phase closeOnDrop t) (ht : t.Sound) (hwaiting : t.waiting = [])
    (hended : t.worker.ended = true) :
    t.worker.Closed ↔ .close ∈ t.made ∨ closeOnDrop = true := by
  have hmade : t.made = t.answers.map Answer.request := by
    have htickets := congrArg (List.map Prod.fst) ht.tickets
    rw [hwaiting, List.append_nil, List.map_map, List.zipIdx_map_fst] at htickets
    exact htickets.symm
  cases h with
  | running hrunning =>
    rw [hended] at hrunning
    cases hrunning
  | closed served late _ hclosed _ hanswers hclose =>
    refine iff_of_true hclosed (.inl ?_)
    rw [hmade, hanswers, ← hclose]
    simp
  | left _ hcloses _ _ hnone =>
    have hmem : .close ∉ t.made := by
      rw [hmade, List.mem_map]
      rintro ⟨a, ha, hrequest⟩
      exact hnone a ha hrequest
    cases closeOnDrop with
    | true => exact iff_of_true hcloses (.inr rfl)
    | false =>
      refine iff_of_false (fun hclosed => ?_) (not_or.mpr ⟨hmem, Bool.false_ne_true⟩)
      have hone := hclosed.sessionCloses_eq
      rw [show t.worker.sessionCloses = 0 from hcloses] at hone
      cases hone

end Traffic

/-! ### Streams of a connection that has ended -/

/-- Every stream that has not ended gets one error from the worker, and then it has ended. -/
structure Worker.Gone (c : Connection σ π κ) (w : Worker σ κ) : Prop where
  failureKind_eq : (Error.engine gone).failureKind? = some .nonTransientResource
  rows : ∀ s : RowStream, s.done = false → ∃ s',
    (RowStream.source c).poll s w = (.item (.error gone), s', w) ∧
      ∀ w', (RowStream.source c).poll s' w' = (.ended, s', w')
  results : ∀ (s : ResultStream) (x : Execution), s.next? c = some x → ∃ s',
    (ResultStream.source c).poll s w = (.item (.error gone), s', w) ∧
      ∀ w', (ResultStream.source c).poll s' w' = (.ended, s', w')

theorem Worker.gone_of_ended {c : Connection σ π κ} {w : Worker σ κ} (h : w.ended = true) :
    w.Gone c := by
  refine ⟨Error.failureKind?_connection _, ?_, ?_⟩
  · intro s hdone
    refine ⟨{ s with done := true }, ?_, fun w' => ?_⟩
    · rw [RowStream.poll_eq, hdone, if_neg Bool.false_ne_true, fetch, unlessEnded, h, if_pos rfl]
      rfl
    · rw [RowStream.poll_eq, if_pos rfl]
  · intro s x hx
    refine ⟨{ s with jobs := s.jobs.tail, failed := true }, ?_, fun w' => ?_⟩
    · rw [ResultStream.poll_eq, hx]
      dsimp only
      rw [execute, unlessEnded, h, if_pos rfl]
      rfl
    · rw [ResultStream.poll_eq]
      rfl

/-! ### The theorem -/

/-- In whatever order requests are made and the worker goes on, every request gets one answer. What
was asked after a close is refused, the engine sees nothing of it, and a stream that has asked
passes the error on once. Once a close has been answered, the streams that have not ended get one
error each. The session is closed at most once, when every cursor has been closed and before nothing
else; and if the last holder leaves, it has been closed in the end just if somebody asked for that
or the connection was made so. -/
theorem Traffic.close_is_final (c : Connection σ π κ) (session : σ) (closeOnDrop : Bool)
    (events : List Event) :
    let t := (Traffic.start session closeOnDrop).run c.engine events
    t.answers.map (fun a => (a.request, a.number)) ++ t.waiting = t.made.zipIdx ∧
    t.worker.journal.reverse = t.answers.flatMap Answer.calls ++ t.farewell ∧
    (∀ before later, t.made = before ++ .close :: later →
      ∀ a ∈ t.answers, before.length < a.number → a.calls = [] ∧
        ∃ e, a.reply = .refusal (.engine e) a.request ∧
          (Error.engine e).failureKind? = some .nonTransientResource ∧ a.PassedOn c (.engine e)) ∧
    (∀ a ∈ t.answers, a.request = .close → t.farewell = [] ∧ t.worker.Gone c) ∧
    t.worker.sessionCloses ≤ 1 ∧
    (t.worker.sessionCloses = 1 →
      t.worker.Closed ∧ ∀ n < t.worker.handedBack, t.worker.closes n = 1) ∧
    ∀ k, t.waiting.length < k →
      (let u := t.run c.engine (.replicate k .work)
      u.made = t.made ∧ u.waiting = []) ∧
      let u := t.run c.engine (.desert :: .replicate k .work)
      u.made = t.made ∧ u.waiting = [] ∧
        (u.worker.sessionCloses = 1 ↔ .close ∈ t.made ∨ closeOnDrop = true) := by
  intro t
  have hsound : t.Sound := (Sound.start session closeOnDrop).run events
  have hphase : Phase closeOnDrop t :=
    (Phase.start session closeOnDrop).run (Sound.start session closeOnDrop) events
  refine ⟨hsound.tickets, hsound.record, ?_, ?_, ?_, ?_, ?_⟩
  · intro before later hmade a ha hlt
    have hrefused := hphase.refused_of_made hsound hmade ha hlt
    obtain ⟨e, hreply, hkind⟩ := hrefused.reply_eq
    exact ⟨hrefused.calls_eq, e, hreply, hkind, a.passedOn_of_refusal c hreply⟩
  · intro a ha hrequest
    obtain ⟨hended, hfarewell⟩ := hphase.of_close ha hrequest
    exact ⟨hfarewell, Worker.gone_of_ended hended⟩
  · rcases hphase.closed_or with hclosed | hzero
    · exact hclosed.sessionCloses_eq.le
    · omega
  · intro hone
    have hclosed := hphase.sessionCloses_eq_one.mp hone
    exact ⟨hclosed, fun n hn => hsound.balanced.closes_of_empty hclosed.cursors_eq hn⟩
  · intro k hk
    refine ⟨⟨(run_work_frame c.engine t k).1, (atRest_run_of_lt hk).1⟩, ?_⟩
    intro u
    have hrest : u.AtRest := atRest_run_of_lt hk
    obtain ⟨hmade, hdeserted⟩ := run_work_frame c.engine { t with deserted := true } k
    have hlast : Phase closeOnDrop u := hphase.run hsound (.desert :: .replicate k .work)
    have hclosed := hlast.closed_iff (hsound.run _) hrest.1 (hrest.2 hdeserted)
    rw [show u.made = t.made from hmade] at hclosed
    exact ⟨hmade, hrest.1, hlast.sessionCloses_eq_one.trans hclosed⟩

/-- Two closes, with requests behind the first and after the worker has let go. -/
theorem Traffic.close_is_final_of_two :
    let session : Scripted.Session := ⟨[], .echo, ⟨none⟩, none, false⟩
    let c : Connection _ _ _ := ⟨Scripted.engine, ⟨.standard false, ⟨none⟩⟩, 0⟩
    let query := Request.execute ⟨"q", [], .none, 0⟩
    let events := [Event.request query, .request .close, .request (.fetch 0), .work, .work,
      .request .close, .work, .request .openCursors]
    let t := (Traffic.start session false).run c.engine events
    let late : Answer _ :=
      ⟨2, .fetch 0, .fetched (.error (.engine (Request.fetch 0).abandonment)), []⟩
    t.made = [query, .close, .fetch 0, .close, .openCursors] ∧ late ∈ t.answers ∧
      (∃ e, late.reply = .refusal (.engine e) late.request ∧
        (Error.engine e).failureKind? = some .nonTransientResource ∧
        late.PassedOn c (.engine e)) ∧
      t.worker.Gone c ∧ t.worker.Closed ∧ t.worker.closes 0 = 1 ∧
      (t.run c.engine [.desert, .work]).worker.sessionCloses = 1 := by
  intro session c query events t late
  let cursor := Scripted.Cursor.ofScript (Scripted.echo [])
  let opened : Answer Scripted.Cursor :=
    ⟨0, query, .executed (.ok (.rows 0 [])), [⟨.prepare "q" [], none⟩, ⟨.query "q" [] 0, none⟩]⟩
  let close : Answer Scripted.Cursor :=
    ⟨1, .close, .closed (.ok ()), [⟨.closeCursor 0 cursor, none⟩, ⟨.closeSession, none⟩]⟩
  have hanswers : t.answers.take 3 = [opened, close, late] := by rfl
  have hmem : ∀ a ∈ [opened, close, late], a ∈ t.answers := by
    rw [← hanswers]
    exact fun a ha => List.mem_of_mem_take ha
  have hmade : t.made = [query, .close, .fetch 0, .close, .openCursors] := by rfl
  have hone : t.worker.sessionCloses = 1 := by rfl
  have hhanded : t.worker.handedBack = 1 := by rfl
  have hwaiting : t.waiting = [] := by rfl
  obtain ⟨-, -, hrefused, hgone, -, hclosed, hlast⟩ :=
    Traffic.close_is_final c session false events
  obtain ⟨hclosed, hcloses⟩ := hclosed hone
  have hlate : late ∈ t.answers := hmem late (by simp)
  obtain ⟨-, hreply⟩ := hrefused [query] [.fetch 0, .close, .openCursors] hmade late hlate
    (by decide)
  obtain ⟨-, hended⟩ := hgone close (hmem close (by simp)) rfl
  have hfirst : 0 < t.worker.handedBack := by omega
  have hnone : t.waiting.length < 1 := by simp [hwaiting]
  refine ⟨hmade, hlate, hreply, hended, hclosed, hcloses 0 hfirst, ?_⟩
  refine (hlast 1 hnone).2.2.2.mpr (.inl ?_)
  rw [hmade]
  simp

end SqlClient
