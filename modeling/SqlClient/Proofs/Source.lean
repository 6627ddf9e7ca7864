import Mathlib.Data.List.ReduceOption
import Mathlib.Logic.Relation
import SqlClient.Source

/-!
# What streams bring

A stream that is polled to its end brings a list of items, while others may change the world between
its polls. What the streams made of it bring is a function of that list. For each way to make a
stream there is one lemma, which says what the new stream brings and what the functions that it
applies have been applied to by then.
-/

namespace SqlClient

/-! ### Functions with a memory -/

namespace Stateful

variable {α β : Type}

/-- The answers to arguments in turn. -/
def answers (f : Stateful α β) : List α → List β
  | [] => []
  | a :: as => f.apply a :: (f.remember a).answers as

/-- The function once it has been applied to arguments in turn. -/
def after (f : Stateful α β) (as : List α) : Stateful α β := as.foldl remember f

/-- The arguments that a predicate accepts, asked about each in turn. -/
def kept (p : Stateful α Bool) : List α → List α
  | [] => []
  | a :: as => if p.apply a then a :: (p.remember a).kept as else (p.remember a).kept as

/-- The arguments that all predicates accept, each asked about what the earlier ones accept. -/
def keptByAll : List (Stateful α Bool) → List α → List α
  | [], as => as
  | p :: ps, as => keptByAll ps (p.kept as)

/-- The predicates once each has been asked about what the earlier ones accept. -/
def afterAll : List (Stateful α Bool) → List α → List (Stateful α Bool)
  | [], _ => []
  | p :: ps, as => p.after as :: afterAll ps (p.kept as)

/-- A function has been applied once to each argument, in order. -/
theorem seen_after (f : Stateful α β) (as : List α) : (f.after as).seen = as.reverse ++ f.seen := by
  induction as generalizing f with
  | nil => rfl
  | cons a as ih =>
    rw [after, List.foldl_cons]
    refine (ih (f.remember a)).trans ?_
    rw [List.reverse_cons, List.append_assoc]
    rfl

/-- Each predicate has been asked once, in order, about exactly what the earlier ones accept. -/
def Consulted (ps : List (Stateful α Bool)) (as : List α) (qs : List (Stateful α Bool)) : Prop :=
  qs.length = ps.length ∧ ∀ before p later, ps = before ++ p :: later →
    qs[before.length]?.map seen = some ((keptByAll before as).reverse ++ p.seen)

theorem consulted_afterAll (ps : List (Stateful α Bool)) (as : List α) :
    Consulted ps as (afterAll ps as) := by
  constructor
  · induction ps generalizing as with
    | nil => rfl
    | cons p ps ih => exact congrArg Nat.succ (ih (p.kept as))
  · rintro before p later rfl
    induction before generalizing as with
    | nil => exact congrArg some (seen_after p as)
    | cons q before ih => exact ih (q.kept as)

theorem afterAll_nil (ps : List (Stateful α Bool)) : afterAll ps [] = ps := by
  induction ps with
  | nil => rfl
  | cons p ps ih => exact congrArg (p :: ·) ih

theorem keptByAll_nil (ps : List (Stateful α Bool)) : keptByAll ps [] = [] := by
  induction ps with
  | nil => rfl
  | cons p ps ih => exact ih

theorem keptByAll_cons (ps : List (Stateful α Bool)) (a : α) (as : List α) :
    keptByAll ps (a :: as) =
      if (accept ps a).1 then a :: keptByAll (accept ps a).2 as
      else keptByAll (accept ps a).2 as := by
  induction ps generalizing as with
  | nil => rfl
  | cons p ps ih =>
    by_cases hp : p.apply a = true
    · simp only [keptByAll, kept, accept, hp, if_true]
      exact ih ((p.remember a).kept as)
    · simp [keptByAll, kept, accept, hp]

theorem afterAll_cons (ps : List (Stateful α Bool)) (a : α) (as : List α) :
    afterAll ps (a :: as) = afterAll (accept ps a).2 as := by
  induction ps generalizing as with
  | nil => rfl
  | cons p ps ih =>
    by_cases hp : p.apply a = true
    · simp only [afterAll, kept, accept, hp, if_true]
      exact congrArg ((p.remember a).after as :: ·) (ih ((p.remember a).kept as))
    · simp [afterAll, kept, accept, hp, after]

end Stateful

/-! ### Items -/

section Items

variable {ε α β : Type}

/-- Items without an error but for the one at the end, if there is one. -/
def itemsOf (as : List α) (failure : Option ε) : List (Except ε α) :=
  as.map .ok ++ failure.toList.map .error

/-- The items up to the first error. -/
def untilError : List (Except ε α) → List (Except ε α)
  | [] => []
  | .ok a :: items => .ok a :: untilError items
  | .error e :: _ => [.error e]

/-- The items that take the place of one that has been mapped. -/
def stretch (missing : ε) : Option (List β) → List (Except ε β)
  | some bs => bs.map .ok
  | none => [.error missing]

theorem map_itemsOf (f : α → β) (as : List α) (failure : Option ε) :
    (itemsOf as failure).map (Except.map f) = itemsOf (as.map f) failure := by
  cases failure <;> simp [itemsOf, Except.map]

theorem itemsOf_eq_nil {as : List α} {failure : Option ε} (h : itemsOf as failure = []) :
    as = [] ∧ failure = none := by
  simpa [itemsOf] using h

/-- The first item is no error, or it is the last one. -/
theorem itemsOf_eq_cons {as : List α} {failure : Option ε} {x : Except ε α}
    {items : List (Except ε α)} (h : itemsOf as failure = x :: items) :
    (∃ a later, as = a :: later ∧ x = .ok a ∧ items = itemsOf later failure) ∨
      as = [] ∧ ∃ e, failure = some e ∧ x = .error e ∧ items = [] := by
  cases as with
  | cons a later =>
    obtain ⟨rfl, rfl⟩ := List.cons.inj h
    exact .inl ⟨a, later, rfl, rfl, rfl⟩
  | nil =>
    cases failure with
    | none => cases h
    | some e =>
      obtain ⟨rfl, rfl⟩ := List.cons.inj h
      exact .inr ⟨rfl, e, rfl, rfl, rfl⟩

theorem untilError_map_ok_append (as : List α) (items : List (Except ε α)) :
    untilError (as.map .ok ++ items) = as.map .ok ++ untilError items := by
  induction as with
  | nil => rfl
  | cons a as ih => exact congrArg (Except.ok a :: ·) ih

/-- Behind an error nothing follows, not even what was to follow the items. -/
theorem untilError_itemsOf_append (as : List α) (failure : Option ε) (rest : List α) :
    untilError (itemsOf as failure ++ rest.map .ok) =
      itemsOf (as ++ if failure.isSome then [] else rest) failure := by
  rw [itemsOf, List.append_assoc, untilError_map_ok_append]
  cases failure with
  | some e => simp [itemsOf, untilError]
  | none =>
    have hrest := untilError_map_ok_append (ε := ε) rest []
    rw [List.append_nil] at hrest
    simp [itemsOf, hrest, untilError]

/-- Mapped items, up to the first that is mapped to none. -/
theorem untilError_flatMap_stretch (missing : ε) (streams : List (Option (List β)))
    (failure : Option ε) :
    untilError (streams.flatMap (stretch missing) ++ failure.toList.map .error) =
      itemsOf (streams.takeWhile Option.isSome).reduceOption.flatten
        (if streams.all Option.isSome then failure else some missing) := by
  induction streams with
  | nil => cases failure <;> rfl
  | cons stream streams ih =>
    rw [List.flatMap_cons, List.append_assoc]
    cases stream with
    | none => rfl
    | some bs =>
      rw [stretch, untilError_map_ok_append, ih]
      simp [itemsOf]

/-- If every item is mapped, the only error is the one at the end. -/
theorem error_notMem_dropLast {missing : ε} {streams : List (Option (List β))}
    (h : streams.all Option.isSome = true) (failure : Option ε) (e : ε) :
    Except.error e ∉
      (streams.flatMap (stretch missing) ++ failure.toList.map Except.error).dropLast := by
  have hmapped : Except.error e ∉ streams.flatMap (stretch missing) := by
    intro hmem
    obtain ⟨stream, hstream, hmem⟩ := List.mem_flatMap.mp hmem
    obtain ⟨bs, rfl⟩ := Option.isSome_iff_exists.mp (List.all_eq_true.mp h stream hstream)
    obtain ⟨b, -, hb⟩ := List.mem_map.mp hmem
    cases hb
  cases failure with
  | none =>
    rw [Option.toList_none, List.map_nil, List.append_nil]
    exact fun hmem => hmapped (List.dropLast_subset _ hmem)
  | some e' =>
    rw [Option.toList_some, List.map_singleton, List.dropLast_concat]
    exact hmapped

end Items

/-! ### Streams -/

namespace Source

variable {W S α β ε : Type}

/-- Polled to its end in a world that others may change between the polls, the stream brings these
items, and it is left in a state with `Q`. -/
inductive Brings (src : Source W S α) (others : W → W → Prop) (Q : S → Prop) :
    List α → S → W → Prop where
  | ended {s w} (hpoll : ∀ v, Relation.ReflTransGen others w v → (src.poll s v).1 = .ended)
      (hleft : ∀ v, Relation.ReflTransGen others w v → Q (src.poll s v).2.1) :
      Brings src others Q [] s w
  | item {a as s w} (hpoll : ∀ v, Relation.ReflTransGen others w v → (src.poll s v).1 = .item a)
      (hlater : ∀ v, Relation.ReflTransGen others w v →
        Brings src others Q as (src.poll s v).2.1 (src.poll s v).2.2) :
      Brings src others Q (a :: as) s w
  | skipped {as s w} (hpoll : ∀ v, Relation.ReflTransGen others w v → (src.poll s v).1 = .skipped)
      (hlater : ∀ v, Relation.ReflTransGen others w v →
        Brings src others Q as (src.poll s v).2.1 (src.poll s v).2.2) :
      Brings src others Q as s w

variable {src : Source W S α} {others : W → W → Prop} {Q Q' : S → Prop} {as bs : List α} {s : S}
  {w : W}

/-- A stream brings one list of items. -/
theorem Brings.unique (h : src.Brings others Q as s w) (h' : src.Brings others Q' bs s w) :
    as = bs := by
  induction h generalizing bs with
  | @ended s w hpoll _ =>
    cases h' with
    | ended _ _ => rfl
    | item hpoll' _ | skipped hpoll' _ => cases (hpoll w .refl).symm.trans (hpoll' w .refl)
  | @item a as s w hpoll _ ih =>
    cases h' with
    | item hpoll' hlater' =>
      obtain rfl := Poll.item.inj ((hpoll w .refl).symm.trans (hpoll' w .refl))
      rw [ih w .refl (hlater' w .refl)]
    | ended hpoll' _ | skipped hpoll' _ => cases (hpoll w .refl).symm.trans (hpoll' w .refl)
  | @skipped as s w hpoll _ ih =>
    cases h' with
    | skipped _ hlater' => exact ih w .refl (hlater' w .refl)
    | ended hpoll' _ | item hpoll' _ => cases (hpoll w .refl).symm.trans (hpoll' w .refl)

theorem Brings.imp (h : src.Brings others Q as s w) (hQ : ∀ t, Q t → Q' t) :
    src.Brings others Q' as s w := by
  induction h with
  | ended hpoll hleft => exact .ended hpoll fun v hv => hQ _ (hleft v hv)
  | item hpoll _ ih => exact .item hpoll ih
  | skipped hpoll _ ih => exact .skipped hpoll ih

/-- What others do to the world changes nothing of what the stream brings. -/
theorem Brings.later {v : W} (h : src.Brings others Q as s w)
    (hv : Relation.ReflTransGen others w v) : src.Brings others Q as s v := by
  cases h with
  | ended hpoll hleft =>
    exact .ended (fun u hu => hpoll u (hv.trans hu)) fun u hu => hleft u (hv.trans hu)
  | item hpoll hlater =>
    exact .item (fun u hu => hpoll u (hv.trans hu)) fun u hu => hlater u (hv.trans hu)
  | skipped hpoll hlater =>
    exact .skipped (fun u hu => hpoll u (hv.trans hu)) fun u hu => hlater u (hv.trans hu)

theorem Brings.map (h : src.Brings others Q as s w) (f : α → β) :
    (src.map f).Brings others Q (as.map f) s w := by
  induction h with
  | ended hpoll hleft => exact .ended (fun v hv => congrArg (Poll.map f) (hpoll v hv)) hleft
  | item hpoll _ ih => exact .item (fun v hv => congrArg (Poll.map f) (hpoll v hv)) ih
  | skipped hpoll _ ih => exact .skipped (fun v hv => congrArg (Poll.map f) (hpoll v hv)) ih

theorem poll_eq {p : Poll α} (h : (src.poll s w).1 = p) :
    src.poll s w = (p, (src.poll s w).2.1, (src.poll s w).2.2) := by
  rw [← h]

theorem Brings.of_item {a : α} (h : ∀ v, Relation.ReflTransGen others w v →
    ∃ t u, src.poll s v = (.item a, t, u) ∧ src.Brings others Q as t u) :
    src.Brings others Q (a :: as) s w := by
  refine .item (fun v hv => ?_) (fun v hv => ?_)
  all_goals
    obtain ⟨t, u, hpoll, ht⟩ := h v hv
    rw [hpoll]
  exact ht

theorem Brings.of_skipped (h : ∀ v, Relation.ReflTransGen others w v →
    ∃ t u, src.poll s v = (.skipped, t, u) ∧ src.Brings others Q as t u) :
    src.Brings others Q as s w := by
  refine .skipped (fun v hv => ?_) (fun v hv => ?_)
  all_goals
    obtain ⟨t, u, hpoll, ht⟩ := h v hv
    rw [hpoll]
  exact ht

/-! ### Items at the end -/

theorem brings_rest (src : Source W S α) (others : W → W → Prop) (rest : List α) (w : W) :
    src.followed.Brings others (fun _ => True) rest ⟨none, rest⟩ w := by
  induction rest generalizing w with
  | nil => exact .ended (fun _ _ => rfl) (fun _ _ => trivial)
  | cons a rest ih => exact .of_item fun v _ => ⟨_, v, rfl, ih v⟩

/-- The items of a stream and then those that follow it. -/
theorem Brings.followed (h : src.Brings others Q as s w) (rest : List α) :
    src.followed.Brings others (fun _ => True) (as ++ rest) ⟨some s, rest⟩ w := by
  induction h with
  | @ended s w hpoll _ =>
    refine .of_skipped fun v hv => ⟨_, (src.poll s v).2.2, ?_, brings_rest src others rest _⟩
    simp only [Source.followed]
    rw [poll_eq (hpoll v hv)]
  | item hpoll _ ih =>
    refine .of_item fun v hv => ⟨_, _, ?_, ih v hv⟩
    simp only [Source.followed]
    rw [poll_eq (hpoll v hv)]
  | skipped hpoll _ ih =>
    refine .of_skipped fun v hv => ⟨_, _, ?_, ih v hv⟩
    simp only [Source.followed]
    rw [poll_eq (hpoll v hv)]

/-- If there is no stream, the other items are all there is. -/
theorem brings_followed {first : Option S} (h : ∀ s, first = some s → src.Brings others Q as s w)
    (hnone : first = none → as = []) (rest : List α) :
    src.followed.Brings others (fun _ => True) (as ++ rest) ⟨first, rest⟩ w := by
  cases first with
  | some s => exact (h s rfl).followed rest
  | none =>
    rw [hnone rfl]
    exact brings_rest src others rest w

/-! ### Stopping after an error -/

section Errors

variable {src : Source W S (Except ε α)} {items : List (Except ε α)}

/-- After an error the stream brings nothing more, whatever is left of it. -/
theorem Brings.failed (h : src.Brings others Q items s w) :
    src.stopAfterError.Brings others (fun t => items = [] → Q t.inner) [] ⟨s, .failed⟩ w := by
  induction h with
  | ended hpoll hleft =>
    refine .ended (fun v hv => ?_) (fun v hv => ?_)
    all_goals
      simp only [Source.stopAfterError]
      rw [poll_eq (hpoll v hv)]
    exact fun _ => hleft v hv
  | item hpoll _ _ =>
    refine .ended (fun v hv => ?_) (fun v hv => ?_)
    all_goals
      simp only [Source.stopAfterError]
      rw [poll_eq (hpoll v hv)]
    exact nofun
  | skipped hpoll _ ih =>
    refine .of_skipped fun v hv => ⟨_, _, ?_, ih v hv⟩
    simp only [Source.stopAfterError]
    rw [poll_eq (hpoll v hv)]

/-- The items up to the first error. If that is the last item, the stream is polled to its end. -/
theorem Brings.stopAfterError (h : src.Brings others Q items s w) :
    src.stopAfterError.Brings others (fun t => (∀ e, .error e ∉ items.dropLast) → Q t.inner)
      (untilError items) (.ofState s) w := by
  induction h with
  | ended hpoll hleft =>
    refine .ended (fun v hv => ?_) (fun v hv => ?_)
    all_goals
      simp only [Source.stopAfterError, Guarded.ofState]
      rw [poll_eq (hpoll v hv)]
    exact fun _ => hleft v hv
  | @item item items _ _ hpoll hlater ih =>
    cases item with
    | ok a =>
      refine .of_item fun v hv => ⟨_, _, ?_, (ih v hv).imp fun t hQ hnone => hQ fun e he => ?_⟩
      · simp only [Source.stopAfterError, Guarded.ofState]
        rw [poll_eq (hpoll v hv)]
      · refine hnone e ?_
        cases items with
        | nil => cases he
        | cons _ _ => exact List.mem_cons_of_mem _ he
    | error e =>
      refine .of_item fun v hv =>
        ⟨_, _, ?_, (hlater v hv).failed.imp fun t hQ hnone => hQ ?_⟩
      · simp only [Source.stopAfterError, Guarded.ofState]
        rw [poll_eq (hpoll v hv)]
      · cases items with
        | nil => rfl
        | cons _ _ => exact absurd List.mem_cons_self (hnone e)
  | skipped hpoll _ ih =>
    refine .of_skipped fun v hv => ⟨_, _, ?_, ih v hv⟩
    simp only [Source.stopAfterError, Guarded.ofState]
    rw [poll_eq (hpoll v hv)]

/-! ### Mapping, filtering and flattening -/

variable {values : List α} {failure : Option ε}

/-- The answers to the items, and the function has been asked about each of them once. -/
theorem Brings.mapped (h : src.Brings others Q (itemsOf values failure) s w) (f : Stateful α β) :
    src.mapped.Brings others (fun t => t.function = f.after values)
      (itemsOf (f.answers values) failure) ⟨s, f⟩ w := by
  generalize hitems : itemsOf values failure = items at h
  induction h generalizing values failure f with
  | ended hpoll _ =>
    obtain ⟨rfl, rfl⟩ := itemsOf_eq_nil hitems
    refine .ended (fun v hv => ?_) (fun v hv => ?_)
    all_goals
      simp only [Source.mapped]
      rw [poll_eq (hpoll v hv)]
    rfl
  | item hpoll _ ih =>
    rcases itemsOf_eq_cons hitems with ⟨a, later, rfl, rfl, rfl⟩ | ⟨rfl, e, rfl, rfl, rfl⟩
    · refine .of_item fun v hv => ⟨_, _, ?_, ih v hv (f.remember a) rfl⟩
      simp only [Source.mapped]
      rw [poll_eq (hpoll v hv)]
    · refine .of_item fun v hv => ⟨_, _, ?_, @ih v hv [] none f rfl⟩
      simp only [Source.mapped]
      rw [poll_eq (hpoll v hv)]
  | skipped hpoll _ ih =>
    refine .of_skipped fun v hv => ⟨_, _, ?_, ih v hv f hitems⟩
    simp only [Source.mapped]
    rw [poll_eq (hpoll v hv)]

/-- The items that all predicates accept. Each predicate has been asked once about each item that
the earlier ones accept, and about nothing else. -/
theorem Brings.filtered (h : src.Brings others Q (itemsOf values failure) s w)
    (ps : List (Stateful α Bool)) :
    src.filtered.Brings others (fun t => Q t.inner ∧ t.predicates = Stateful.afterAll ps values)
      (itemsOf (Stateful.keptByAll ps values) failure) ⟨s, ps⟩ w := by
  generalize hitems : itemsOf values failure = items at h
  induction h generalizing values failure ps with
  | ended hpoll hleft =>
    obtain ⟨rfl, rfl⟩ := itemsOf_eq_nil hitems
    rw [Stateful.keptByAll_nil]
    refine .ended (fun v hv => ?_) (fun v hv => ?_)
    all_goals
      simp only [Source.filtered]
      rw [poll_eq (hpoll v hv)]
    exact ⟨hleft v hv, (Stateful.afterAll_nil ps).symm⟩
  | item hpoll _ ih =>
    rcases itemsOf_eq_cons hitems with ⟨a, later, rfl, rfl, rfl⟩ | ⟨rfl, e, rfl, rfl, rfl⟩
    · rw [Stateful.keptByAll_cons, Stateful.afterAll_cons]
      by_cases haccept : (Stateful.accept ps a).1 = true
      · rw [if_pos haccept]
        refine .of_item fun v hv => ⟨_, _, ?_, ih v hv (Stateful.accept ps a).2 rfl⟩
        simp only [Source.filtered]
        rw [poll_eq (hpoll v hv)]
        simp only [haccept, if_true]
      · rw [if_neg haccept]
        refine .of_skipped fun v hv => ⟨_, _, ?_, ih v hv (Stateful.accept ps a).2 rfl⟩
        simp only [Source.filtered]
        rw [poll_eq (hpoll v hv)]
        simp [haccept]
    · rw [Stateful.keptByAll_nil]
      have hnil := fun v hv => @ih v hv [] none ps rfl
      rw [Stateful.keptByAll_nil] at hnil
      refine .of_item fun v hv => ⟨_, _, ?_, hnil v hv⟩
      simp only [Source.filtered]
      rw [poll_eq (hpoll v hv)]
  | skipped hpoll _ ih =>
    refine .of_skipped fun v hv => ⟨_, _, ?_, ih v hv ps hitems⟩
    simp only [Source.filtered]
    rw [poll_eq (hpoll v hv)]

/-- What is pending comes before anything else. -/
theorem Brings.pending {Q : Flattened S α β → Prop} {missing : ε} {f : Stateful α (Option (List β))}
    {later : List (Except ε β)}
    (h : (src.flattened missing).Brings others Q later ⟨s, f, []⟩ w) (bs : List β) :
    (src.flattened missing).Brings others Q (bs.map .ok ++ later) ⟨s, f, bs⟩ w := by
  induction bs generalizing w with
  | nil => exact h
  | cons b bs ih => exact .of_item fun v hv => ⟨_, v, rfl, ih (h.later hv)⟩

/-- The items of the streams that the mapper gives. It has been asked once about each item. -/
theorem Brings.flattened (h : src.Brings others Q (itemsOf values failure) s w) (missing : ε)
    (f : Stateful α (Option (List β))) :
    (src.flattened missing).Brings others (fun t => Q t.inner ∧ t.mapper = f.after values)
      ((f.answers values).flatMap (stretch missing) ++ failure.toList.map .error) ⟨s, f, []⟩ w := by
  generalize hitems : itemsOf values failure = items at h
  induction h generalizing values failure f with
  | ended hpoll hleft =>
    obtain ⟨rfl, rfl⟩ := itemsOf_eq_nil hitems
    refine .ended (fun v hv => ?_) (fun v hv => ?_)
    all_goals
      simp only [Source.flattened]
      rw [poll_eq (hpoll v hv)]
    exact ⟨hleft v hv, rfl⟩
  | item hpoll _ ih =>
    rcases itemsOf_eq_cons hitems with ⟨a, later, rfl, rfl, rfl⟩ | ⟨rfl, e, rfl, rfl, rfl⟩
    · rw [Stateful.answers, List.flatMap_cons, List.append_assoc]
      cases ha : f.apply a with
      | some bs =>
        refine .of_skipped fun v hv => ⟨_, _, ?_, (ih v hv (f.remember a) rfl).pending bs⟩
        simp only [Source.flattened]
        rw [poll_eq (hpoll v hv)]
        simp only [ha]
      | none =>
        refine .of_item fun v hv => ⟨_, _, ?_, ih v hv (f.remember a) rfl⟩
        simp only [Source.flattened]
        rw [poll_eq (hpoll v hv)]
        simp only [ha]
    · refine .of_item fun v hv => ⟨_, _, ?_, @ih v hv [] none f rfl⟩
      simp only [Source.flattened]
      rw [poll_eq (hpoll v hv)]
  | skipped hpoll _ ih =>
    refine .of_skipped fun v hv => ⟨_, _, ?_, ih v hv f hitems⟩
    simp only [Source.flattened]
    rw [poll_eq (hpoll v hv)]

end Errors

end Source

end SqlClient
