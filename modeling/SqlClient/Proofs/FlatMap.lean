import SqlClient.Engine.Scripted
import SqlClient.Proofs.Connection.Usage
import SqlClient.Proofs.Spent

/-!
# Mapped segments after an error

Once the stream that the segments of a result are mapped to has brought an error, no item follows.
Behind the failure of a row, and behind a count for which the mapper gave no stream, nothing else
happens either. A row for which the mapper gave no stream is different: the segments are still open,
and that nothing more is wanted shows only when the next item is there and is thrown away. So the
next poll takes another row, and the mapper is asked about it, and so on as long as it gives streams
without items.
-/

namespace SqlClient

/-! ### What is left of a result -/

section Results

variable {σ π κ : Type} {c : Connection σ π κ}

/-- The failure of a fetch is never that of a mapper. -/
theorem Worker.fetch_ne_noMappedStream (E : Engine σ π κ) (w : Worker σ κ) (number : Nat) :
    (w.fetch E number).1 ≠ .error .noMappedStream := by
  cases h : w.ended with
  | true =>
    rw [fetch, unlessEnded, if_pos h]
    rintro ⟨⟩
  | false =>
    cases hl : w.cursors.lookup number with
    | none =>
      rw [fetch_of_lookup_eq_none h hl]
      rintro ⟨⟩
    | some cursor =>
      have hf := fetched E h hl
      generalize w.fetch E number = f at hf
      cases hf
      all_goals rintro ⟨⟩

/-- A row leaves a row stream as it is, and anything else is the last thing that it brings. -/
theorem RowStream.poll_cases (s : RowStream) (w : Worker σ κ) : ∃ w',
    (source c).poll s w = (.ended, { s with done := true }, w') ∨
    (∃ row, s.done = false ∧ (source c).poll s w = (.item (.ok row), s, w')) ∨
    ∃ e, e ≠ .noMappedStream ∧
      (source c).poll s w = (.item (.error e), { s with done := true }, w') := by
  cases hdone : s.done with
  | true =>
    refine ⟨w, .inl ?_⟩
    rw [Usage.poll_of_done hdone, ← hdone]
  | false =>
    have hne := Worker.fetch_ne_noMappedStream c.engine w s.cursor
    simp only [source, hdone, Bool.false_eq_true, if_false]
    rcases hfetch : w.fetch c.engine s.cursor with ⟨e | _ | values, w'⟩
    · rw [hfetch] at hne
      exact ⟨w', .inr (.inr ⟨e, fun he => hne (congrArg Except.error he), rfl⟩)⟩
    · exact ⟨w', .inl rfl⟩
    · exact ⟨w', .inr (.inl ⟨_, trivial, rfl⟩)⟩

/-- The rows of a result and its count, before they are filtered. -/
abbrev Segments.unfiltered (c : Connection σ π κ) :
    Source (Worker σ κ) (Followed RowStream (Except Error Segment)) (Except Error Segment) :=
  ((RowStream.source c).map (Except.map Segment.row)).followed

/-- Nothing is left of the stream, and its mapper is not asked again. -/
def FlatMapped.Exhausted {α : Type} (c : Connection σ π κ) (t : FlatMapped α) : Prop :=
  (FlatMapped.source c α).Spent (·.inner.mapper = t.inner.mapper) t

theorem FlatMapped.exhausted_of_finished {α : Type} (c : Connection σ π κ) {t : FlatMapped α}
    (h : t.progress = .finished) : FlatMapped.Exhausted c t := by
  obtain ⟨inner, progress⟩ := t
  obtain rfl : progress = .finished := h
  exact Source.spent_finished (P := fun t : Flattened Segments Segment α => t.mapper = inner.mapper)
    rfl

/-- If nothing is left of the segments and nothing is pending, nothing is left at all. -/
theorem FlatMapped.exhausted_of_spent {α : Type} {c : Connection σ π κ} {segments : Segments}
    (h : (Segments.source c).Spent (fun _ => True) segments)
    (mapper : Stateful Segment (Option (List α))) (progress : Progress) :
    FlatMapped.Exhausted c ⟨⟨segments, mapper, []⟩, progress⟩ :=
  (h.flattened mapper).stopAfterError progress

namespace QueryResult

/-- What can be left of the rows of a result and its count. -/
structure Remainder (r : QueryResult) (t : Followed RowStream (Except Error Segment)) : Prop where
  cursor_eq : ∀ s, t.first = some s → ∃ rows, r.rows? = some rows ∧ s.cursor = rows.cursor
  rest : t.rest = [] ∨ ∃ count, t.rest = [.ok (.updateCount count)]

variable {r : QueryResult} {t t' : Followed RowStream (Except Error Segment)} {w w' : Worker σ κ}

theorem Remainder.poll (h : r.Remainder t) (w : Worker σ κ) :
    r.Remainder ((Segments.unfiltered c).poll t w).2.1 := by
  obtain ⟨first, rest⟩ := t
  cases first with
  | some s =>
    obtain ⟨w', hp | ⟨row, -, hp⟩ | ⟨e, -, hp⟩⟩ := s.poll_cases (c := c) w
    all_goals
      simp only [Segments.unfiltered, Source.followed, Source.map, hp, Poll.map]
    · exact ⟨by rintro _ ⟨⟩, h.rest⟩
    · exact h
    · refine ⟨fun s' hs' => ?_, h.rest⟩
      obtain rfl := Option.some.inj hs'
      exact h.cursor_eq s rfl
  | none =>
    rcases h.rest with rfl | ⟨count, rfl⟩
    · exact h
    · exact ⟨by rintro _ ⟨⟩, .inl rfl⟩

/-- A row leaves the rows open, the count leaves nothing, and the failure of a row leaves at most
the count. -/
theorem Remainder.item (h : r.Remainder t) {item : Except Error Segment}
    (hpoll : (Segments.unfiltered c).poll t w = (.item item, t', w')) :
    (∃ row s, item = .ok (.row row) ∧ t'.first = some s ∧ s.done = false) ∨
    (∃ count, item = .ok (.updateCount count) ∧ t' = ⟨none, []⟩) ∨
    ∃ e s, item = .error e ∧ e ≠ .noMappedStream ∧ t'.first = some s ∧ s.done = true := by
  obtain ⟨first, rest⟩ := t
  cases first with
  | some s =>
    obtain ⟨w', hp | ⟨row, hdone, hp⟩ | ⟨e, hne, hp⟩⟩ := s.poll_cases (c := c) w
    all_goals
      simp only [Segments.unfiltered, Source.followed, Source.map, hp, Poll.map] at hpoll
      cases hpoll
    · exact .inl ⟨row, s, rfl, rfl, hdone⟩
    · exact .inr (.inr ⟨e, _, rfl, hne, rfl, rfl⟩)
  | none =>
    rcases h.rest with rfl | ⟨count, rfl⟩
    all_goals cases hpoll
    exact .inr (.inl ⟨count, rfl, rfl⟩)

/-- What is left of the segments when they have brought an item. Behind a row they take another one;
behind the count and behind a failure nothing is left. -/
theorem Remainder.segment {t t' : Segments} (h : r.Remainder t.inner.inner)
    {item : Except Error Segment} (hpoll : (Segments.source c).poll t w = (.item item, t', w')) :
    (∃ row rows, item = .ok (.row row) ∧ r.rows? = some rows ∧
      ∀ u, ((Segments.source c).poll t' u).2.2 = (u.fetch c.engine rows.cursor).2) ∨
    (Segments.source c).Spent (fun _ => True) t' ∧
      ((∃ count, item = .ok (.updateCount count)) ∨
        ∃ e, item = .error e ∧ e ≠ .noMappedStream) := by
  obtain ⟨hraw, hprogress⟩ := Source.stopAfterError_item (Source.filtered_item hpoll)
  have hleft := h.poll (c := c) w
  rw [hraw] at hleft
  obtain ⟨⟨⟨first, rest⟩, progress⟩, predicates⟩ := t'
  rcases h.item hraw with
    ⟨row, s, rfl, rfl, hdone⟩ | ⟨count, rfl, hcount⟩ | ⟨e, s, rfl, hne, rfl, hdone⟩
  · obtain ⟨rows, hrows, hcursor⟩ := hleft.cursor_eq s rfl
    obtain rfl : progress = .running := hprogress
    refine .inl ⟨row, rows, rfl, hrows, fun u => ?_⟩
    rw [Segments.source, Source.world_filtered, Source.world_stopAfterError (by simp),
      Source.world_followed, ← hcursor, ← Usage.poll_worker hdone]
    rfl
  · obtain ⟨rfl, rfl⟩ := Followed.mk.inj hcount
    have hspent : (Segments.unfiltered c).Spent (fun _ => True) ⟨none, []⟩ :=
      .ended trivial fun _ => rfl
    exact .inr ⟨(hspent.stopAfterError progress).filtered predicates, .inl ⟨count, rfl⟩⟩
  · obtain rfl : progress = .failed := hprogress
    have hspent : ((RowStream.source c).map (Except.map Segment.row)).Spent (fun _ => True) s := by
      refine .ended trivial fun u => ?_
      simp only [Source.map, Usage.poll_of_done hdone, Poll.map]
    exact .inr ⟨(hspent.followed rest).filtered predicates, .inr ⟨e, rfl, hne⟩⟩

/-! ### After an error -/

theorem remainder_of_leads {α : Type} {f : Stateful Segment (Option (List α))} {s : FlatMapped α}
    (h : (FlatMapped.source c α).Leads (r.flatMap f) s) :
    r.Remainder s.inner.inner.inner.inner := by
  have hsegments : (Segments.source c).Leads r.segments s.inner.inner :=
    Source.leads_flattened (Source.leads_stopAfterError h)
  have hraw : (Segments.unfiltered c).Leads r.segments.inner.inner s.inner.inner.inner.inner :=
    Source.leads_stopAfterError (Source.leads_filtered hsegments)
  refine hraw.keeps ⟨fun rows hrows => ⟨rows, hrows, rfl⟩, ?_⟩ fun _ w ht => ht.poll w
  cases hcount : r.rowsUpdated? with
  | none => exact .inl (by rw [segments, hcount]; rfl)
  | some count => exact .inr ⟨count, by rw [segments, hcount]; rfl⟩

/-- What an error leaves. It is the failure of a row, or the mapper gave no stream for a segment.
Only if that was a row something is left: another poll takes another row. -/
theorem Remainder.failure {α : Type} {s inner : Flattened Segments Segment α} {e : Error}
    (h : r.Remainder s.inner.inner.inner)
    (hpoll : ((Segments.source c).flattened .noMappedStream).poll s w =
      (.item (.error e), inner, w')) :
    let failed : FlatMapped α := ⟨inner, .failed⟩
    (e ≠ .noMappedStream ∧ inner.mapper = s.mapper ∧ FlatMapped.Exhausted c failed) ∨
    e = .noMappedStream ∧ ∃ segment, s.mapper.apply segment = none ∧
      inner.mapper = s.mapper.remember segment ∧
      (segment.isUpdateCount = true → FlatMapped.Exhausted c failed) ∧
      (segment.isRow = true → ∃ rows, r.rows? = some rows ∧
        ∀ u, ((FlatMapped.source c α).poll failed u).2.2 = (u.fetch c.engine rows.cursor).2) := by
  rcases Source.flattened_error hpoll with
    ⟨segment, t, hsegment, hnone, rfl, rfl⟩ | ⟨t, hfailed, rfl⟩
  · refine .inr ⟨rfl, segment, hnone, rfl, ?_⟩
    rcases h.segment hsegment with
      ⟨row, rows, hrow, hrows, hfetch⟩ | ⟨hspent, ⟨_, hcount⟩ | ⟨_, he, _⟩⟩
    · cases hrow
      refine ⟨nofun, fun _ => ⟨rows, hrows, fun u => ?_⟩⟩
      rw [FlatMapped.source, Source.world_stopAfterError (by simp), Source.world_flattened]
      exact hfetch u
    · cases hcount
      exact ⟨fun _ => FlatMapped.exhausted_of_spent hspent _ _, nofun⟩
    · cases he
  · rcases h.segment hfailed with ⟨_, _, hrow, -⟩ | ⟨hspent, ⟨_, hcount⟩ | ⟨_, he, hne⟩⟩
    · cases hrow
    · cases hcount
    · cases he
      exact .inl ⟨hne, rfl, FlatMapped.exhausted_of_spent hspent _ _⟩

/-- What polls of the stream do once one of them has brought an error. No item follows, and behind
the first end nothing happens any more. Behind the failure of a row nothing happens at all, nor
behind a count for which the mapper gave no stream. Behind a row for which it gave none the next poll
takes another row of the cursor. The mapper may be asked again then, but all its answers up to the
last one are streams without items, and behind any other answer nothing happens. -/
theorem flatMap_after_error {α : Type} {f : Stateful Segment (Option (List α))}
    {s failed : FlatMapped α} {e : Error}
    (hs : (FlatMapped.source c α).Leads (r.flatMap f) s)
    (hpoll : (FlatMapped.source c α).poll s w = (.item (.error e), failed, w')) :
    let asked := failed.inner.mapper
    (∀ t, (FlatMapped.source c α).Leads failed t → ∀ u,
      (∀ item, ((FlatMapped.source c α).poll t u).1 ≠ .item item) ∧
      (((FlatMapped.source c α).poll t u).1 = .ended →
        FlatMapped.Exhausted c ((FlatMapped.source c α).poll t u).2.1)) ∧
    (e ≠ .noMappedStream → asked = s.inner.mapper ∧ FlatMapped.Exhausted c failed) ∧
    (e = .noMappedStream → ∃ segment, s.inner.mapper.apply segment = none ∧
      asked = s.inner.mapper.remember segment ∧
      (segment.isUpdateCount = true → FlatMapped.Exhausted c failed) ∧
      (segment.isRow = true → ∃ rows, r.rows? = some rows ∧
        ∀ u, ((FlatMapped.source c α).poll failed u).2.2 = (u.fetch c.engine rows.cursor).2)) ∧
    ∀ t, (FlatMapped.source c α).Leads failed t → ∃ more,
      t.inner.mapper = asked.after more ∧
      (∀ answer ∈ (asked.answers more).dropLast, answer = some []) ∧
      ((∃ answer ∈ asked.answers more, answer ≠ some []) → FlatMapped.Exhausted c t) := by
  intro asked
  obtain ⟨hflat, hprogress⟩ := Source.stopAfterError_item hpoll
  obtain ⟨inner, progress⟩ := failed
  obtain rfl : progress = .failed := hprogress
  have hcause := (remainder_of_leads hs).failure hflat
  refine ⟨fun t ht u => ?_, fun hne => ?_, fun he => ?_, fun t ht => ?_⟩
  · have hne : t.progress ≠ .running :=
      ht.keeps (P := (·.progress ≠ .running)) nofun fun t w hne =>
        (Source.stopAfterError_of_ne_running _ hne w).2.1
    obtain ⟨hitem, -, hended⟩ := Source.stopAfterError_of_ne_running
      ((Segments.source c).flattened .noMappedStream) hne u
    exact ⟨hitem, fun h => FlatMapped.exhausted_of_finished c (hended h)⟩
  · rcases hcause with ⟨-, hfailed⟩ | ⟨he, -⟩
    · exact hfailed
    · exact absurd he hne
  · rcases hcause with ⟨hne, -⟩ | ⟨-, hsegment⟩
    · exact absurd he hne
    · exact hsegment
  · have hstart : Source.Overrun asked [] ⟨inner, .failed⟩ := ⟨nofun, rfl, nofun, .inl nofun⟩
    obtain ⟨more, hmore⟩ : ∃ more, Source.Overrun asked more t :=
      ht.keeps (P := (∃ more, Source.Overrun asked more ·)) ⟨[], hstart⟩ fun _ w ⟨_, h⟩ => h.poll w
    exact ⟨more, hmore.mapper_eq, hmore.empty, hmore.spent⟩

/-- Generated values whose second row fails: the count behind them is thrown away, and neither the
mapper nor the engine hears of it. -/
theorem flatMap_after_lost_row :
    let script : Scripted.CursorScript :=
      ⟨[], [[.varchar "a"], [.varchar "b"]], some ⟨1, .general "lost"⟩, none, none, false⟩
    let session : Scripted.Session := ⟨[], .update 0 none, ⟨none⟩, none, false⟩
    let c : Connection _ _ _ := ⟨Scripted.engine, ⟨.standard false, ⟨none⟩⟩, 0⟩
    let w : Worker _ _ := ⟨session, [(0, .ofScript script)], 1, [], false, false⟩
    let r := ofBody (.updateWithKeys 2 ⟨0, ⟨[]⟩, false⟩)
    let mapped := FlatMapped.source c String
    let one := mapped.poll (r.flatMap (.ofFunction fun _ => some ["x"])) w
    let two := mapped.poll one.2.1 one.2.2
    let three := mapped.poll two.2.1 two.2.2
    mapped.Leads (r.flatMap (.ofFunction fun _ => some ["x"])) two.2.1 ∧
      three.1 = .item (.error (.engine (.general "lost"))) ∧
      three.2.1.inner.mapper = two.2.1.inner.mapper ∧ three.2.1.Exhausted c := by
  intro script session c w r mapped one two three
  have hleads : mapped.Leads (r.flatMap (.ofFunction fun _ => some ["x"])) two.2.1 :=
    .tail (.single ⟨w, rfl⟩) ⟨one.2.2, rfl⟩
  have hthree : three.1 = .item (.error (.engine (.general "lost"))) := rfl
  exact ⟨hleads, hthree, (flatMap_after_error hleads (Source.poll_eq hthree)).2.1 nofun⟩

/-- Three rows and a mapper that gives no stream for any of them. The poll behind the error ends the
stream, but it has taken the second row, and the mapper has been asked about it. -/
theorem flatMap_asks_after_error :
    let script : Scripted.CursorScript :=
      ⟨[], [[.integer 1], [.integer 2], [.integer 3]], none, none, none, false⟩
    let session : Scripted.Session := ⟨[], .update 0 none, ⟨none⟩, none, false⟩
    let c : Connection _ _ _ := ⟨Scripted.engine, ⟨.standard false, ⟨none⟩⟩, 0⟩
    let w : Worker _ _ := ⟨session, [(0, .ofScript script)], 1, [], false, false⟩
    let r := ofBody (.rows ⟨0, ⟨[]⟩, false⟩)
    let mapped := FlatMapped.source c String
    let one := mapped.poll (r.flatMap (.ofFunction fun _ => none)) w
    let two := mapped.poll one.2.1 one.2.2
    one.1 = .item (.error .noMappedStream) ∧
      one.2.2.advances 0 = 1 ∧ one.2.1.inner.mapper.seen.length = 1 ∧
      two.1 = .ended ∧ two.2.2.advances 0 = 2 ∧ two.2.1.inner.mapper.seen.length = 2 :=
  ⟨rfl, rfl, rfl, rfl, rfl, rfl⟩

end QueryResult

end Results

end SqlClient
