import SqlClient.Proofs.Connection.Isolation
import SqlClient.Proofs.Source
import SqlClient.QueryResult

/-!
# Segments of results

What the streams of a result bring follows from its row data: the rows, and the failure that ends
them, if one does. The update count comes behind the last row and never behind a failure, filters
never take a failure away, and rows are mapped whatever the filters are.
-/

namespace SqlClient

variable {σ π κ : Type}

/-! ### The rows of a cursor -/

/-- The rows that are left of a cursor, and the failure that ends them, if one does. -/
inductive Engine.RowData (E : Engine σ π κ) (session : σ) :
    Option κ → List (List Value) → Option Error → Prop where
  | ended {left left'} (h : E.delivery session left = (.ended, left')) :
      RowData E session left [] none
  | failed {left e} (h : E.delivery session left = (.item (.error e), none)) :
      RowData E session left [] (some e)
  | row {left left' values rows failure}
      (h : E.delivery session left = (.item (.ok values), left'))
      (hlater : RowData E session left' rows failure) :
      RowData E session left (values :: rows) failure

namespace RowStream

variable {c : Connection σ π κ} {others : Worker σ κ → Worker σ κ → Prop} {s : RowStream}
  {w : Worker σ κ}

/-- The stream has this much left of its cursor, and the worker runs. -/
structure Reading (s : RowStream) (left : Option κ) (w : Worker σ κ) : Prop where
  running : w.ended = false
  lookup_eq : ∀ cursor, left = some cursor → w.cursors.lookup s.cursor = some cursor

/-- A poll shows what the cursor brings. -/
theorem Reading.poll {left : Option κ} (h : Reading s left w) : ∃ w',
    (source c).poll { s with done := left.isNone } w =
      (s.shown c (c.engine.delivery w.session left).1,
        { s with done := (c.engine.delivery w.session left).2.isNone }, w') ∧
      Reading s (c.engine.delivery w.session left).2 w' := by
  cases left with
  | none => exact ⟨w, Usage.poll_of_done rfl, h⟩
  | some cursor =>
    have hcursor := h.lookup_eq cursor rfl
    have hf := Worker.fetched c.engine h.running hcursor
    obtain ⟨next, hdelivery, hnext⟩ := hf.delivery hcursor
    have hended := hf.ended_eq.trans h.running
    rw [hdelivery]
    simp only [source, Option.isNone_some, Bool.false_eq_true, if_false]
    rcases hfetch : w.fetch c.engine s.cursor with ⟨e | _ | values, w'⟩
    all_goals rw [hfetch] at hended hnext
    · exact ⟨w', rfl, hended, fun k hk => absurd hk.symm (Option.some_ne_none k)⟩
    · exact ⟨w', rfl, hended, fun k hk => absurd hk.symm (Option.some_ne_none k)⟩
    · refine ⟨w', rfl, hended, fun k hk => ?_⟩
      rw [← hk]
      exact hnext values rfl

/-- A row stream brings the rows of its cursor, as long as nobody else touches the cursor. -/
theorem brings_of_rowData (hE : c.engine.StandAlone)
    (hothers : ∀ v v' left, others v v' → Reading s left v → Reading s left v')
    {session : σ} {left : Option κ} {rows : List (List Value)} {failure : Option Error}
    (h : c.engine.RowData session left rows failure) (hw : Reading s left w) :
    (source c).Brings others (fun _ => True)
      (itemsOf (rows.map (⟨·, s.metadata, c.conversions⟩)) failure)
      { s with done := left.isNone } w := by
  have hpoll : ∀ {w left p left'}, Reading s left w → c.engine.delivery session left = (p, left') →
      ∀ v, Relation.ReflTransGen others w v → ∃ v',
        (source c).poll { s with done := left.isNone } v =
          (s.shown c p, { s with done := left'.isNone }, v') ∧ Reading s left' v' := by
    intro w left p left' hw hd v hv
    have hreading : Reading s left v := by
      induction hv with
      | refl => exact hw
      | tail _ hstep ih => exact hothers _ _ left hstep ih
    have hv' := hreading.poll (c := c)
    rwa [hE.delivery_eq v.session session left, hd] at hv'
  have hended : ∀ {w left left'}, Reading s left w →
      c.engine.delivery session left = (.ended, left') →
      (source c).Brings others (fun _ => True) [] { s with done := left.isNone } w := by
    intro w left left' hw hd
    refine .ended (fun v hv => ?_) fun _ _ => trivial
    obtain ⟨v', hv', -⟩ := hpoll hw hd v hv
    rw [hv']
    rfl
  induction h generalizing w with
  | ended hd => exact hended hw hd
  | failed hd =>
    refine .of_item fun v hv => ?_
    obtain ⟨v', hv', hreading⟩ := hpoll hw hd v hv
    exact ⟨_, v', hv', hended hreading rfl⟩
  | row hd _ ih =>
    refine .of_item fun v hv => ?_
    obtain ⟨v', hv', hreading⟩ := hpoll hw hd v hv
    exact ⟨_, v', hv', ih hreading⟩

end RowStream

/-! ### Results -/

namespace QueryResult

section

variable (c : Connection σ π κ) (others : Worker σ κ → Worker σ κ → Prop)

/-- The row data of a result: rows, and the failure that ends them, if one does. A plain update has
neither. -/
structure HasRowData (r : QueryResult) (rows : List Row) (failure : Option Error)
    (w : Worker σ κ) : Prop where
  brings : ∀ stream, r.rows? = some stream →
    (RowStream.source c).Brings others (fun _ => True) (itemsOf rows failure) stream w
  eq_nil : r.rows? = none → rows = [] ∧ failure = none

end

/-- What the predicates are asked about: the rows and, unless one has failed, the count. -/
def due (r : QueryResult) (rows : List Row) (failure : Option Error) : List Segment :=
  rows.map .row ++ if failure.isSome then [] else (r.rowsUpdated?.map .updateCount).toList

variable {c : Connection σ π κ} {others : Worker σ κ → Worker σ κ → Prop} {r : QueryResult}
  {rows : List Row} {failure : Option Error} {w : Worker σ κ}

theorem foldl_filter (r : QueryResult) (ps : List (Stateful Segment Bool)) :
    ps.foldl filter r = { r with filters := r.filters ++ ps } := by
  induction ps generalizing r with
  | nil => rw [List.foldl_nil, List.append_nil]
  | cons p ps ih =>
    rw [List.foldl_cons, ih, filter]
    simp only [List.append_assoc, List.singleton_append]

/-- The segments that all predicates accept, and the failure. -/
theorem HasRowData.segments (h : r.HasRowData c others rows failure w) :
    (Segments.source c).Brings others
      (fun t => Stateful.Consulted r.filters (r.due rows failure) t.predicates)
      (itemsOf (Stateful.keptByAll r.filters (r.due rows failure)) failure) r.segments w := by
  have hcount : (r.rowsUpdated?.map Segment.updateCount).toList.map .ok =
      (r.rowsUpdated?.map fun n => (.ok (.updateCount n) : Except Error Segment)).toList := by
    cases r.rowsUpdated? <;> rfl
  have hrows : ∀ stream, r.rows? = some stream →
      ((RowStream.source c).map (Except.map Segment.row)).Brings others (fun _ => True)
        (itemsOf (rows.map .row) failure) stream w := by
    intro stream hstream
    rw [← map_itemsOf]
    exact (h.brings stream hstream).map _
  have hnone : r.rows? = none → itemsOf (rows.map Segment.row) failure = [] := by
    intro hnone
    obtain ⟨rfl, rfl⟩ := h.eq_nil hnone
    rfl
  have hraw := (Source.brings_followed hrows hnone
    ((r.rowsUpdated?.map Segment.updateCount).toList.map .ok)).stopAfterError
  rw [untilError_itemsOf_append, hcount] at hraw
  refine (hraw.filtered r.filters).imp ?_
  rintro t ⟨-, hpredicates⟩
  rw [hpredicates]
  exact Stateful.consulted_afterAll r.filters (r.due rows failure)

/-- The items of the streams that the mapper gives for these segments, up to the first segment for
which it gives none. -/
theorem HasRowData.flatMap {α : Type} (h : r.HasRowData c others rows failure w)
    (f : Stateful Segment (Option (List α))) :
    let kept := Stateful.keptByAll r.filters (r.due rows failure)
    let streams := f.answers kept
    (FlatMapped.source c α).Brings others
      (fun t => streams.all Option.isSome →
        Stateful.Consulted r.filters (r.due rows failure) t.inner.inner.predicates ∧
          t.inner.mapper.seen = kept.reverse ++ f.seen)
      (itemsOf (streams.takeWhile Option.isSome).reduceOption.flatten
        (if streams.all Option.isSome then failure else some .noMappedStream))
      (r.flatMap f) w := by
  intro kept streams
  have hflat := (h.segments.flattened .noMappedStream f).stopAfterError
  rw [untilError_flatMap_stretch] at hflat
  refine hflat.imp fun t ht hall => ?_
  obtain ⟨hconsulted, hmapper⟩ := ht (error_notMem_dropLast hall failure)
  exact ⟨hconsulted, by rw [hmapper, Stateful.seen_after]⟩

/-- The rows under a function, and the failure. -/
theorem HasRowData.map {α : Type} (h : r.HasRowData c others rows failure w)
    (g : Stateful Row α) :
    (MappedRows.source c α).Brings others (fun t => t.function.seen = rows.reverse ++ g.seen)
      (itemsOf (g.answers rows) failure) (r.map g) w := by
  have hnone : r.rows? = none → itemsOf rows failure = [] := by
    intro hnone
    obtain ⟨rfl, rfl⟩ := h.eq_nil hnone
    rfl
  have hraw := Source.brings_followed h.brings hnone []
  rw [List.append_nil] at hraw
  refine (hraw.mapped g).imp fun t ht => ?_
  rw [ht, Stateful.seen_after]

/-- The streams of a result with these row data and a chain of predicates. The segments are those
that all predicates accept: the rows, and the count unless a row has failed; then comes the failure.
Each predicate has been asked once, in order, about what the earlier ones accept. The streams that a
mapper gives for these segments follow each other up to the first segment for which it gives none,
or to the failure. Rows are mapped once each, in order, whatever the predicates are. -/
theorem segment_algebra {body : ResultBody} (h : (ofBody body).HasRowData c others rows failure w)
    (ps : List (Stateful Segment Bool)) :
    let r := ps.foldl filter (ofBody body)
    let due := r.due rows failure
    let kept := Stateful.keptByAll ps due
    (Segments.source c).Brings others (fun t => Stateful.Consulted ps due t.predicates)
      (itemsOf kept failure) r.segments w ∧
    (∀ (α : Type) (f : Stateful Segment (Option (List α))),
      let streams := f.answers kept
      (FlatMapped.source c α).Brings others
        (fun t => streams.all Option.isSome →
          Stateful.Consulted ps due t.inner.inner.predicates ∧
            t.inner.mapper.seen = kept.reverse ++ f.seen)
        (itemsOf (streams.takeWhile Option.isSome).reduceOption.flatten
          (if streams.all Option.isSome then failure else some .noMappedStream))
        (r.flatMap f) w) ∧
    ∀ (α : Type) (g : Stateful Row α),
      (MappedRows.source c α).Brings others (fun t => t.function.seen = rows.reverse ++ g.seen)
        (itemsOf (g.answers rows) failure) (r.map g) w ∧
      ∀ count, body = .update count → itemsOf (g.answers rows) failure = [] := by
  rw [foldl_filter, ofBody, List.nil_append]
  have hr : HasRowData c others ⟨body, ps⟩ rows failure w := ⟨h.brings, h.eq_nil⟩
  refine ⟨hr.segments, fun _ f => hr.flatMap f, fun _ g => ⟨hr.map g, ?_⟩⟩
  rintro count rfl
  obtain ⟨rfl, rfl⟩ := h.eq_nil rfl
  rfl

/-- Generated values that fail after two rows, read in turn with another cursor. Of two predicates
the second one accepts every other segment. -/
theorem segment_algebra_of_keys :
    let script : Scripted.CursorScript :=
      ⟨[], [[.varchar "a"], [.varchar "b"]], some ⟨2, .general "lost"⟩, none, none, false⟩
    let session : Scripted.Session := ⟨[], .update 0 none, ⟨none⟩, none, false⟩
    let c : Connection _ _ _ := ⟨Scripted.engine, ⟨.standard false, ⟨none⟩⟩, 0⟩
    let cursor := Scripted.Cursor.ofScript script
    let w : Worker _ _ := ⟨session, [(0, cursor), (1, cursor)], 2, [], false, false⟩
    let others := fun v v' => v' = (Worker.fetch c.engine v 1).2
    let row := fun text => (⟨[.varchar text], ⟨[]⟩, c.conversions⟩ : Row)
    let body := ResultBody.updateWithKeys 2 ⟨0, ⟨[]⟩, false⟩
    let lost := Error.engine (.general "lost")
    let r := ((ofBody body).filter (.ofFunction Segment.isRow)).filter
      (.ofAnswer fun seen _ => seen.length % 2 == 1)
    (ofBody body).HasRowData c others [row "a", row "b"] (some lost) w ∧
      (Segments.source c).Brings others (fun _ => True) [.ok (.row (row "b")), .error lost]
        r.segments w := by
  intro script session c cursor w others row body lost r
  have hdata : c.engine.RowData session (some cursor) [[.varchar "a"], [.varchar "b"]]
      (some lost) := .row rfl (.row rfl (.failed rfl))
  have hothers : ∀ v v' left, others v v' → RowStream.Reading ⟨0, ⟨[]⟩, false⟩ left v →
      RowStream.Reading ⟨0, ⟨[]⟩, false⟩ left v' := by
    rintro v v' left rfl hv
    refine ⟨Worker.ended_fetch c.engine hv.running 1, fun k hk => ?_⟩
    rw [(Worker.untouched_fetch c.engine hv.running (by decide)).lookup_eq]
    exact hv.lookup_eq k hk
  have hrows : (ofBody body).HasRowData c others [row "a", row "b"] (some lost) w := by
    refine ⟨fun stream hstream => ?_, nofun⟩
    obtain rfl := Option.some.inj hstream
    have hw : RowStream.Reading ⟨0, ⟨[]⟩, false⟩ (some cursor) w := ⟨rfl, fun k hk => hk⟩
    exact RowStream.brings_of_rowData Scripted.standAlone hothers hdata hw
  refine ⟨hrows, ?_⟩
  have hsegments := (segment_algebra hrows [.ofFunction Segment.isRow,
    .ofAnswer fun seen _ => seen.length % 2 == 1]).1
  exact hsegments.imp fun _ _ => trivial

end QueryResult

end SqlClient
