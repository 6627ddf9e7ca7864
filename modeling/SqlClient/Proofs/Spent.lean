import SqlClient.Proofs.Source

/-!
# Streams that are polled on

Streams can be polled behind an error, and behind their end. If nothing is left of a stream, such
polls bring no item and leave the world alone. A stream that stops after its first error goes on
polling the stream inside it, until that brings something, which is thrown away. If the items inside
are those that a mapper gives, it may be asked again for this.
-/

namespace SqlClient

/-! ### Functions with a memory -/

namespace Stateful

variable {α β : Type}

theorem after_concat (f : Stateful α β) (as : List α) (a : α) :
    f.after (as ++ [a]) = (f.after as).remember a := by
  rw [after, List.foldl_concat]
  rfl

theorem answers_concat (f : Stateful α β) (as : List α) (a : α) :
    f.answers (as ++ [a]) = f.answers as ++ [(f.after as).apply a] := by
  induction as generalizing f with
  | nil => rfl
  | cons b as ih => exact congrArg (f.apply b :: ·) (ih (f.remember b))

end Stateful

/-! ### Streams that are polled on -/

namespace Source

variable {W S T α β ε : Type}

/-- The stream gets from one state to the other when it is polled, in whatever worlds. -/
def Leads (src : Source W S α) : S → S → Prop :=
  Relation.ReflTransGen fun s t => ∃ w, (src.poll s w).2.1 = t

/-- Nothing is left of the stream: in whatever world it is polled, it brings no item and leaves the
world alone, until it has ended and stays as it is. All its states on the way have `P`. -/
inductive Spent (src : Source W S α) (P : S → Prop) : S → Prop where
  | ended {s} (hs : P s) (hpoll : ∀ w, src.poll s w = (.ended, s, w)) : Spent src P s
  | later {s t p} (hs : P s) (hp : ∀ a, p ≠ .item a) (hpoll : ∀ w, src.poll s w = (p, t, w))
      (ht : Spent src P t) : Spent src P s

theorem Leads.poll {src : Source W S α} {s t : S} (h : src.Leads s t) (w : W) :
    src.Leads s (src.poll t w).2.1 :=
  h.tail ⟨w, rfl⟩

/-- What every poll keeps holds for good. -/
theorem Leads.keeps {src : Source W S α} {P : S → Prop} {s t : S} (h : src.Leads s t) (hs : P s)
    (hP : ∀ s w, P s → P (src.poll s w).2.1) : P t := by
  induction h with
  | refl => exact hs
  | tail _ hstep ih =>
    obtain ⟨w, rfl⟩ := hstep
    exact hP _ w ih

theorem Spent.holds {src : Source W S α} {P : S → Prop} {s : S} (h : src.Spent P s) : P s := by
  cases h with
  | ended hs _ | later hs _ _ _ => exact hs

/-- A stream that only passes on that another one brings nothing. -/
theorem Spent.lift {src : Source W S α} {outer : Source W T β} {P : S → Prop} {Q : T → Prop} {s : S}
    (h : src.Spent P s) (make : S → T) (hQ : ∀ s, P s → Q (make s))
    (hskipped : ∀ s t w, src.poll s w = (.skipped, t, w) →
      outer.poll (make s) w = (.skipped, make t, w))
    (hended : ∀ s t w, src.poll s w = (.ended, t, w) →
      outer.poll (make s) w = (.ended, make t, w)) : outer.Spent Q (make s) := by
  induction h with
  | ended hs hpoll => exact .ended (hQ _ hs) fun w => hended _ _ w (hpoll w)
  | @later s t p hs hp hpoll _ ih =>
    cases p with
    | item item => exact absurd rfl (hp item)
    | skipped => exact .later (hQ s hs) (p := .skipped) nofun (fun w => hskipped s t w (hpoll w)) ih
    | ended => exact .later (hQ s hs) (p := .ended) nofun (fun w => hended s t w (hpoll w)) ih

theorem world_followed (src : Source W S α) (s : S) (rest : List α) (w : W) :
    (src.followed.poll ⟨some s, rest⟩ w).2.2 = (src.poll s w).2.2 := by
  simp only [followed]
  rcases src.poll s w with ⟨_ | _ | _, t, u⟩
  all_goals rfl

section Errors

variable {src : Source W S (Except ε α)} {missing : ε} {w w' : W} {P : S → Prop}

/-! ### Stopping after an error -/

/-- An item of the inner stream is passed on as long as there was no error. -/
theorem stopAfterError_item {s s' : Guarded S} {item : Except ε α}
    (h : src.stopAfterError.poll s w = (.item item, s', w')) :
    src.poll s.inner w = (.item item, s'.inner, w') ∧
      s'.progress = if item.isOk then .running else .failed := by
  obtain ⟨inner, progress⟩ := s
  simp only [stopAfterError] at h
  rcases hp : src.poll inner w with ⟨(_ | _) | _ | _, t, u⟩
  all_goals
    rw [hp] at h
    cases progress <;> cases h
  all_goals exact ⟨rfl, rfl⟩

/-- Behind an error the inner stream is polled until it brings something, which is thrown away. -/
theorem stopAfterError_failed {s t : S} {p : Poll (Except ε α)} (h : src.poll s w = (p, t, w')) :
    p = .skipped ∧ src.stopAfterError.poll ⟨s, .failed⟩ w = (.skipped, ⟨t, .failed⟩, w') ∨
      src.stopAfterError.poll ⟨s, .failed⟩ w = (.ended, ⟨t, .finished⟩, w') := by
  simp only [stopAfterError, h]
  cases p with
  | item | ended => exact .inr rfl
  | skipped => exact .inl ⟨rfl, rfl⟩

/-- Behind an error there are no items. -/
theorem stopAfterError_of_ne_running (src : Source W S (Except ε α)) {s : Guarded S}
    (h : s.progress ≠ .running) (w : W) : (∀ item, (src.stopAfterError.poll s w).1 ≠ .item item) ∧
      (src.stopAfterError.poll s w).2.1.progress ≠ .running ∧
      ((src.stopAfterError.poll s w).1 = .ended →
        (src.stopAfterError.poll s w).2.1.progress = .finished) := by
  obtain ⟨inner, progress⟩ := s
  cases progress with
  | running => exact absurd rfl h
  | finished => exact ⟨nofun, nofun, fun _ => rfl⟩
  | failed =>
    rcases stopAfterError_failed (poll_eq rfl : src.poll inner w = _) with ⟨-, hpoll⟩ | hpoll
    all_goals rw [hpoll]
    · exact ⟨nofun, nofun, nofun⟩
    · exact ⟨nofun, nofun, fun _ => rfl⟩

theorem world_stopAfterError {s : Guarded S} (hs : s.progress ≠ .finished) (w : W) :
    (src.stopAfterError.poll s w).2.2 = (src.poll s.inner w).2.2 := by
  obtain ⟨inner, progress⟩ := s
  simp only [stopAfterError]
  rcases src.poll inner w with ⟨(_ | _) | _ | _, t, u⟩
  all_goals
    cases progress with
    | finished => exact absurd rfl hs
    | running | failed => rfl

theorem leads_stopAfterError {s t : Guarded S} (h : src.stopAfterError.Leads s t) :
    src.Leads s.inner t.inner := by
  refine h.lift' Guarded.inner ?_
  rintro ⟨inner, progress⟩ t ⟨w, rfl⟩
  have hself : src.Leads inner inner := .refl
  have hpoll : src.Leads inner (src.poll inner w).2.1 := hself.poll w
  simp only [stopAfterError]
  rcases hp : src.poll inner w with ⟨(_ | _) | _ | _, t, u⟩
  all_goals
    rw [hp] at hpoll
    cases progress
  all_goals first | exact hpoll | exact hself

theorem spent_finished {s : S} (hs : P s) :
    src.stopAfterError.Spent (P ·.inner) ⟨s, .finished⟩ :=
  .ended hs fun _ => rfl

theorem stopAfterError_skipped {s t : S} (h : src.poll s w = (.skipped, t, w'))
    {progress : Progress} (hp : progress ≠ .finished) :
    src.stopAfterError.poll ⟨s, progress⟩ w = (.skipped, ⟨t, progress⟩, w') := by
  cases progress with
  | finished => exact absurd rfl hp
  | running | failed => simp only [stopAfterError, h]

theorem stopAfterError_ended {s t : S} (h : src.poll s w = (.ended, t, w'))
    {progress : Progress} (hp : progress ≠ .finished) :
    src.stopAfterError.poll ⟨s, progress⟩ w = (.ended, ⟨t, .finished⟩, w') := by
  cases progress with
  | finished => exact absurd rfl hp
  | running | failed => simp only [stopAfterError, h]

theorem Spent.stopAfterError {s : S} (h : src.Spent P s) (progress : Progress) :
    src.stopAfterError.Spent (P ·.inner) ⟨s, progress⟩ := by
  rcases eq_or_ne progress .finished with rfl | hne
  · exact spent_finished h.holds
  · induction h with
    | ended hs hpoll =>
      exact .later hs (p := .ended) nofun (fun w => stopAfterError_ended (hpoll w) hne)
        (spent_finished hs)
    | @later s t p hs hp hpoll ht ih =>
      cases p with
      | item item => exact absurd rfl (hp item)
      | skipped =>
        exact .later hs (p := .skipped) nofun (fun w => stopAfterError_skipped (hpoll w) hne) ih
      | ended =>
        exact .later hs (p := .ended) nofun (fun w => stopAfterError_ended (hpoll w) hne)
          (spent_finished ht.holds)

/-- What follows a stream of which nothing is left is thrown away behind an error. -/
theorem Spent.followed {s : S} (h : src.Spent (fun _ => True) s) (rest : List (Except ε α)) :
    src.followed.stopAfterError.Spent (fun _ => True) ⟨⟨some s, rest⟩, .failed⟩ := by
  have hrest : src.followed.stopAfterError.Spent (fun _ => True) ⟨⟨none, rest⟩, .failed⟩ := by
    rcases rest with _ | ⟨_ | _, _⟩
    all_goals
      exact .later trivial (p := .ended) nofun (fun w => rfl)
        (spent_finished (P := fun _ => True) trivial)
  induction h with
  | ended _ hpoll =>
    refine .later trivial (p := .skipped) nofun (fun w => ?_) hrest
    simp only [Source.stopAfterError, Source.followed, hpoll]
  | @later s t p _ hp hpoll _ ih =>
    cases p with
    | item item => exact absurd rfl (hp item)
    | skipped =>
      refine .later trivial (p := .skipped) nofun (fun w => ?_) ih
      simp only [Source.stopAfterError, Source.followed, hpoll]
    | ended =>
      refine .later trivial (p := .skipped) nofun (fun w => ?_) hrest
      simp only [Source.stopAfterError, Source.followed, hpoll]

/-! ### Filtering -/

theorem filtered_item {s s' : Filtered S α} {item : Except ε α}
    (h : src.filtered.poll s w = (.item item, s', w')) :
    src.poll s.inner w = (.item item, s'.inner, w') := by
  simp only [filtered] at h
  rcases hp : src.poll s.inner w with ⟨(_ | a) | _ | _, t, u⟩
  all_goals rw [hp] at h
  case item.ok =>
    rcases hverdict : (Stateful.accept s.predicates a).1
    all_goals
      simp only [hverdict] at h
      cases h
    rfl
  all_goals
    cases h
  rfl

theorem leads_filtered {s t : Filtered S α} (h : src.filtered.Leads s t) :
    src.Leads s.inner t.inner := by
  refine h.lift' Filtered.inner ?_
  rintro s t ⟨w, rfl⟩
  refine .single ⟨w, ?_⟩
  simp only [filtered]
  rcases src.poll s.inner w with ⟨(_ | _) | _ | _, t, u⟩
  all_goals rfl

theorem world_filtered (s : Filtered S α) (w : W) :
    (src.filtered.poll s w).2.2 = (src.poll s.inner w).2.2 := by
  simp only [filtered]
  rcases src.poll s.inner w with ⟨(_ | _) | _ | _, t, u⟩
  all_goals rfl

theorem Spent.filtered {s : S} (h : src.Spent P s) (predicates : List (Stateful α Bool)) :
    src.filtered.Spent (P ·.inner) ⟨s, predicates⟩ := by
  refine h.lift (Filtered.mk · predicates) (fun _ hs => hs) (fun s t w hpoll => ?_)
    (fun s t w hpoll => ?_)
  all_goals simp only [Source.filtered, hpoll]

/-! ### Flattening -/

/-- An error is that of an item, or it takes the place of an item that the mapper gave no stream
for. -/
theorem flattened_error {s s' : Flattened S α β} {e : ε}
    (h : (src.flattened missing).poll s w = (.item (.error e), s', w')) :
    (∃ a t, src.poll s.inner w = (.item (.ok a), t, w') ∧ s.mapper.apply a = none ∧ e = missing ∧
      s' = ⟨t, s.mapper.remember a, []⟩) ∨
    ∃ t, src.poll s.inner w = (.item (.error e), t, w') ∧ s' = ⟨t, s.mapper, []⟩ := by
  obtain ⟨inner, mapper, _ | ⟨b, rest⟩⟩ := s
  · simp only [flattened] at h
    rcases hp : src.poll inner w with ⟨(e' | a) | _ | _, t, u⟩
    all_goals rw [hp] at h
    case item.ok =>
      cases ha : mapper.apply a with
      | some bs =>
        simp only [ha] at h
        cases h
      | none =>
        simp only [ha] at h
        cases h
        exact .inl ⟨a, t, rfl, ha, rfl, rfl⟩
    all_goals
      cases h
    exact .inr ⟨t, rfl, rfl⟩
  · cases h

theorem leads_flattened {s t : Flattened S α β} (h : (src.flattened missing).Leads s t) :
    src.Leads s.inner t.inner := by
  refine h.lift' Flattened.inner ?_
  rintro ⟨inner, mapper, _ | ⟨b, rest⟩⟩ t ⟨w, rfl⟩
  · refine .single ⟨w, ?_⟩
    simp only [flattened]
    rcases src.poll inner w with ⟨(_ | a) | _ | _, t, u⟩
    case item.ok => cases ha : mapper.apply a <;> simp only [ha]
    all_goals rfl
  · exact .refl

theorem world_flattened (s : S) (f : Stateful α (Option (List β))) (w : W) :
    ((src.flattened missing).poll ⟨s, f, []⟩ w).2.2 = (src.poll s w).2.2 := by
  simp only [flattened]
  rcases src.poll s w with ⟨(_ | a) | _ | _, t, u⟩
  case item.ok => cases ha : f.apply a <;> simp only [ha]
  all_goals rfl

/-- One poll asks the mapper about one item at most, and is skipped if it gave a stream. -/
theorem flattened_mapper (src : Source W S (Except ε α)) (missing : ε) (s : S)
    (f : Stateful α (Option (List β))) (w : W) :
    ∃ p t w', (src.flattened missing).poll ⟨s, f, []⟩ w = (p, t, w') ∧ (t.mapper = f ∨
      ∃ a, t.mapper = f.remember a ∧ (p = .skipped → f.apply a = some t.pending)) := by
  simp only [flattened]
  rcases src.poll s w with ⟨(_ | a) | _ | _, t, u⟩
  case item.ok =>
    cases ha : f.apply a with
    | none =>
      simp only [ha]
      exact ⟨_, _, _, rfl, .inr ⟨a, rfl, by rintro ⟨⟩⟩⟩
    | some bs =>
      simp only [ha]
      exact ⟨_, _, _, rfl, .inr ⟨a, rfl, fun _ => ha⟩⟩
  all_goals exact ⟨_, _, _, rfl, .inl rfl⟩

/-- If nothing is left of the items, the mapper is not asked again. -/
theorem Spent.flattened {s : S} (h : src.Spent (fun _ => True) s)
    (f : Stateful α (Option (List β))) :
    (src.flattened missing).Spent (·.mapper = f) ⟨s, f, []⟩ := by
  refine h.lift (Flattened.mk · f []) (fun _ _ => rfl) (fun s t w hpoll => ?_)
    (fun s t w hpoll => ?_)
  all_goals simp only [Source.flattened, hpoll]

/-! ### A mapper that is asked again -/

/-- The mapper has been asked about more items since there was an error. All its answers but the
last are streams without items, and so is the last one as long as items are waited for. -/
structure Overrun (asked : Stateful α (Option (List β))) (more : List α)
    (t : Guarded (Flattened S α β)) : Prop where
  ne_running : t.progress ≠ .running
  mapper_eq : t.inner.mapper = asked.after more
  empty : ∀ answer ∈ (asked.answers more).dropLast, answer = some []
  last : (∀ answer ∈ asked.answers more, answer = some []) ∨
    t.progress = .finished ∨ t.inner.pending ≠ []

variable {asked : Stateful α (Option (List β))} {more : List α} {t : Guarded (Flattened S α β)}

theorem Overrun.poll (h : Overrun asked more t) (w : W) :
    ∃ more', Overrun asked more' ((src.flattened missing).stopAfterError.poll t w).2.1 := by
  obtain ⟨⟨inner, mapper, pending⟩, progress⟩ := t
  cases progress with
  | running => exact absurd rfl h.ne_running
  | finished => exact ⟨more, h⟩
  | failed =>
    cases pending with
    | cons b rest => exact ⟨more, nofun, h.mapper_eq, h.empty, .inr (.inl rfl)⟩
    | nil =>
      -- items are waited for, so no answer so far has any
      have hall := h.last.resolve_right (by simp)
      obtain ⟨p, t', w', hflat, hmapper | ⟨a, hmapper, ha⟩⟩ :=
        flattened_mapper src missing inner mapper w
      · have hmapper' := hmapper.trans h.mapper_eq
        rcases stopAfterError_failed hflat with ⟨-, hpoll⟩ | hpoll
        all_goals rw [hpoll]
        · exact ⟨more, nofun, hmapper', h.empty, .inl hall⟩
        · exact ⟨more, nofun, hmapper', h.empty, .inr (.inl rfl)⟩
      · obtain rfl : mapper = asked.after more := h.mapper_eq
        rw [← Stateful.after_concat] at hmapper
        have hempty : ∀ answer ∈ (asked.answers (more ++ [a])).dropLast, answer = some [] := by
          rwa [Stateful.answers_concat, List.dropLast_concat]
        rcases stopAfterError_failed hflat with ⟨hskipped, hpoll⟩ | hpoll
        all_goals rw [hpoll]
        · refine ⟨more ++ [a], nofun, hmapper, hempty, ?_⟩
          rcases eq_or_ne t'.pending [] with hnil | hne
          · rw [Stateful.answers_concat, ha hskipped, hnil]
            exact .inl (List.forall_mem_append.mpr ⟨hall, List.forall_mem_singleton.mpr rfl⟩)
          · exact .inr (.inr hne)
        · exact ⟨more ++ [a], nofun, hmapper, hempty, .inr (.inl rfl)⟩

/-- Behind the first answer that is no stream without items nothing happens. -/
theorem Overrun.spent (h : Overrun asked more t)
    (hanswer : ∃ answer ∈ asked.answers more, answer ≠ some []) :
    (src.flattened missing).stopAfterError.Spent (·.inner.mapper = t.inner.mapper) t := by
  obtain ⟨⟨inner, mapper, pending⟩, progress⟩ := t
  have hfinished : ∀ rest, (src.flattened missing).stopAfterError.Spent (·.inner.mapper = mapper)
      ⟨⟨inner, mapper, rest⟩, .finished⟩ :=
    fun rest => spent_finished (P := fun t : Flattened S α β => t.mapper = mapper) rfl
  obtain ⟨answer, hmem, hne⟩ := hanswer
  cases progress with
  | running => exact absurd rfl h.ne_running
  | finished => exact hfinished pending
  | failed =>
    cases pending with
    | cons b rest => exact .later rfl (p := .ended) nofun (fun w => rfl) (hfinished rest)
    | nil =>
      have hall := h.last.resolve_right (by simp)
      exact absurd (hall answer hmem) hne

end Errors

end Source

end SqlClient
