import Mathlib.Data.List.Forall2
import Mathlib.Data.List.Induction
import Mathlib.Data.List.ProdSigma
import SqlClient.Proofs.Connection.ExecutionOrder

/-!
# What the calls on a statement bind

The calls on a statement that succeed leave a record of what they bound and where they closed a
group. The groups of the statement are the runs of binds in that record, its state is what the
record ends with, and what an execution comes to can be read off the runs.
-/

namespace SqlClient

/-! ### The parameters of one group -/

theorem lookup_cons_ite (i : Nat) (p : Nat × Value) (ps : List (Nat × Value)) :
    (p :: ps).lookup i = if i = p.1 then some p.2 else ps.lookup i := by
  rw [List.lookup_cons]
  by_cases h : i = p.1
  · simp [h]
  · simp [h, beq_false_of_ne h]

theorem isSome_lookup {i : Nat} {ps : List (Nat × Value)} :
    (ps.lookup i).isSome = true ↔ i ∈ ps.map Prod.fst := by
  rw [List.lookup_isSome_iff, List.mem_map]
  constructor
  · rintro ⟨p, hp, heq⟩
    exact ⟨p, hp, (eq_of_beq heq).symm⟩
  · rintro ⟨p, hp, rfl⟩
    exact ⟨p, hp, beq_self_eq_true _⟩

theorem lookup_setParameter (index i : Nat) (v : Value) (ps : List (Nat × Value)) :
    (setParameter index v ps).lookup i = if i = index then some v else ps.lookup i := by
  induction ps with
  | nil => rw [setParameter, lookup_cons_ite]
  | cons p ps ih =>
    obtain ⟨j, w⟩ := p
    rw [setParameter]
    by_cases hlt : index < j
    · rw [if_pos hlt, lookup_cons_ite]
    rw [if_neg hlt]
    by_cases heq : index = j
    · subst heq
      rw [if_pos rfl, lookup_cons_ite, lookup_cons_ite]
      split_ifs <;> rfl
    · rw [if_neg heq, lookup_cons_ite, lookup_cons_ite, ih]
      split_ifs with hj hi
      · exact absurd (hi.symm.trans hj) heq
      all_goals rfl

/-- The last value that a run of binds gives to an index. -/
def lastBound (run : List (Nat × Value)) (index : Nat) : Option Value := run.reverse.lookup index

namespace Binding

/-- The group that a run of binds leaves. -/
def ofRun (run : List (Nat × Value)) : Binding :=
  run.foldl (fun group p => group.set p.1 p.2) .empty

theorem ofRun_concat (run : List (Nat × Value)) (p : Nat × Value) :
    ofRun (run ++ [p]) = (ofRun run).set p.1 p.2 := by
  rw [ofRun, List.foldl_append]
  rfl

/-- The last value that was bound to an index wins. -/
theorem lookup_ofRun (run : List (Nat × Value)) (i : Nat) :
    (ofRun run).parameters.lookup i = lastBound run i := by
  induction run using List.reverseRecOn with
  | nil => rfl
  | append_singleton run p ih =>
    rw [ofRun_concat, set, lookup_setParameter, ih, lastBound, lastBound, List.reverse_append,
      List.reverse_singleton, List.singleton_append, lookup_cons_ite]

/-- A group has the indices that were bound. -/
theorem mem_indices_ofRun {run : List (Nat × Value)} {i : Nat} :
    i ∈ (ofRun run).parameters.map Prod.fst ↔ i ∈ run.map Prod.fst := by
  rw [← isSome_lookup, lookup_ofRun, lastBound, isSome_lookup, List.map_reverse, List.mem_reverse]

theorem isEmpty_ofRun {run : List (Nat × Value)} (h : run ≠ []) : (ofRun run).isEmpty = false := by
  obtain ⟨p, hp⟩ := List.exists_mem_of_ne_nil run h
  have hmem := mem_indices_ofRun.mpr (List.mem_map_of_mem (f := Prod.fst) hp)
  rw [isEmpty, List.isEmpty_eq_false_iff]
  rintro hnil
  rw [hnil] at hmem
  exact List.not_mem_nil hmem

/-- Parameters in ascending order have a value for every index up to their end, or there is a first
index without one. -/
theorem valuesFrom_cases {n : Nat} {ps : List (Nat × Value)}
    (hasc : (ps.map Prod.fst).Pairwise (· < ·)) (hle : ∀ i ∈ ps.map Prod.fst, n ≤ i) :
    (∃ values, valuesFrom n ps = .ok values ∧ ∀ i, values[i]? = ps.lookup (n + i)) ∨
      ∃ m, valuesFrom n ps = .error (.parameterNotSet (m + 1)) ∧ n ≤ m ∧ m ∉ ps.map Prod.fst ∧
        (∀ j, n ≤ j → j < m → j ∈ ps.map Prod.fst) ∧ ∃ i ∈ ps.map Prod.fst, m < i := by
  induction ps generalizing n with
  | nil => exact .inl ⟨[], rfl, fun i => rfl⟩
  | cons p ps ih =>
    obtain ⟨index, v⟩ := p
    rw [List.map_cons, List.pairwise_cons] at hasc
    obtain ⟨hfirst, hasc⟩ := hasc
    rw [List.map_cons, List.forall_mem_cons] at hle
    rw [valuesFrom]
    by_cases heq : index = n
    · subst heq
      rw [if_pos rfl]
      rcases ih (n := index + 1) hasc hfirst with
        ⟨values, hvalues, hlookup⟩ | ⟨m, herror, hle, hm, hbelow, i, hi, hlt⟩
      · rw [hvalues]
        refine .inl ⟨v :: values, rfl, fun i => ?_⟩
        rw [lookup_cons_ite]
        cases i with
        | zero => simp
        | succ i =>
          rw [List.getElem?_cons_succ, hlookup, if_neg (by simp), Nat.add_right_comm, Nat.add_assoc]
      · rw [herror]
        refine .inr ⟨m, rfl, Nat.le_of_lt hle, ?_, fun j hle hj => ?_, i,
          List.mem_cons_of_mem _ hi, hlt⟩
        · exact List.not_mem_cons_of_ne_of_not_mem (Nat.ne_of_gt hle) hm
        · rcases Nat.eq_or_lt_of_le hle with rfl | hlt
          · exact List.mem_cons_self
          · exact List.mem_cons_of_mem _ (hbelow j hlt hj)
    · rw [if_neg heq]
      have hlt : n < index := Nat.lt_of_le_of_ne hle.1 (Ne.symm heq)
      refine .inr ⟨n, rfl, Nat.le_refl n, ?_, fun j hj hlt => by omega, index,
        List.mem_cons_self, hlt⟩
      refine List.not_mem_cons_of_ne_of_not_mem (Nat.ne_of_lt hlt) fun hmem => ?_
      exact Nat.lt_asymm hlt (hfirst n hmem)

end Binding

/-- The indices of a run are those below some number. -/
def Gapless (run : List (Nat × Value)) : Prop := ∃ n, ∀ i, i ∈ run.map Prod.fst ↔ i < n

/-- The least index that a run does not bind. -/
def FirstMissing (run : List (Nat × Value)) (m : Nat) : Prop :=
  m ∉ run.map Prod.fst ∧ ∀ i < m, i ∈ run.map Prod.fst

/-- A run without a gap has the last values that it binds, one with a gap the number of the first
parameter that it leaves out. -/
theorem Binding.values_ofRun (run : List (Nat × Value)) :
    (∃ values, (ofRun run).values = .ok values ∧ Gapless run ∧
        ∀ i, values[i]? = lastBound run i) ∨
      ∃ m, (ofRun run).values = .error (.parameterNotSet (m + 1)) ∧ ¬ Gapless run ∧
        FirstMissing run m := by
  rcases valuesFrom_cases (n := 0) (ofRun run).ascending (fun i _ => Nat.zero_le i) with
    ⟨values, hvalues, hlookup⟩ | ⟨m, herror, -, hm, hbelow, i, hi, hlt⟩
  · simp only [Nat.zero_add, lookup_ofRun] at hlookup
    refine .inl ⟨values, hvalues, ⟨values.length, fun i => ?_⟩, hlookup⟩
    rw [← mem_indices_ofRun, ← isSome_lookup, lookup_ofRun, ← hlookup]
    simp
  · simp only [mem_indices_ofRun] at hm hbelow hi
    refine .inr ⟨m, herror, ?_, hm, fun j hj => hbelow j (Nat.zero_le j) hj⟩
    rintro ⟨n, hn⟩
    rw [hn] at hm hi
    omega

theorem FirstMissing.unique {run : List (Nat × Value)} {m m' : Nat} (h : FirstMissing run m)
    (h' : FirstMissing run m') : m = m' := by
  rcases Nat.lt_trichotomy m m' with hlt | rfl | hlt
  · exact absurd (h'.2 m hlt) h.1
  · rfl
  · exact absurd (h.2 m' hlt) h'.1

theorem Binding.values_eq_ok {run : List (Nat × Value)} :
    (∃ values, (ofRun run).values = .ok values) ↔ Gapless run := by
  rcases values_ofRun run with ⟨values, hvalues, hgapless, -⟩ | ⟨m, herror, hgap, -⟩
  · exact iff_of_true ⟨values, hvalues⟩ hgapless
  · refine iff_of_false ?_ hgap
    rintro ⟨values, hvalues⟩
    rw [herror] at hvalues
    cases hvalues

theorem Binding.values_eq_error {run : List (Nat × Value)} {e : Error} :
    (ofRun run).values = .error e ↔
      ¬ Gapless run ∧ ∃ m, FirstMissing run m ∧ e = .parameterNotSet (m + 1) := by
  rcases values_ofRun run with ⟨values, hvalues, hgapless, -⟩ | ⟨m, herror, hgap, hm⟩
  · rw [hvalues]
    exact iff_of_false nofun fun h => h.1 hgapless
  · rw [herror]
    constructor
    · intro h
      exact ⟨hgap, m, hm, (Except.error.inj h).symm⟩
    · rintro ⟨-, m', hm', rfl⟩
      rw [hm.unique hm']

/-! ### The record of the calls -/

/-- A call that binds a parameter or closes the group of parameters. -/
inductive BindingCall where
  | bind (index : Nat) (v : HostValue)
  | bindNamed (identifier : String) (v : HostValue)
  | bindNull (index : Nat) (type : HostType)
  | bindNullNamed (identifier : String) (type : HostType)
  | add

/-- What a call that succeeded did. -/
inductive BindingEffect where
  | bound (parameter : Nat × Value)
  | closed

namespace BindingEffect

/-- Whether a group was closed. -/
def isClosed : BindingEffect → Bool
  | .bound _ => false
  | .closed => true

/-- Index and value that were bound. -/
def parameter? : BindingEffect → Option (Nat × Value)
  | .bound p => some p
  | .closed => none

/-- The runs of binds in a record between the closings. -/
def runs (record : List BindingEffect) : List (List (Nat × Value)) :=
  ((record.splitOnP isClosed).map (List.filterMap parameter?)).filter (!·.isEmpty)

end BindingEffect

/-- What a call asks for, if identifier and value are in order. -/
def BindingCall.effect (r : Registry) : BindingCall → Except Error BindingEffect
  | .bind index v => do return .bound (index, ← r.encode v)
  | .bindNamed identifier v => do return .bound (← parameterIndex identifier, ← r.encode v)
  | .bindNull index type => do return .bound (index, ← r.encodeNull type)
  | .bindNullNamed identifier type => do
    return .bound (← parameterIndex identifier, ← r.encodeNull type)
  | .add => .ok .closed

/-- A call of the statement. -/
def Statement.call (r : Registry) (s : Statement) : BindingCall → Except Error Statement
  | .bind index v => s.bind r index v
  | .bindNamed identifier v => s.bindNamed r identifier v
  | .bindNull index type => s.bindNull r index type
  | .bindNullNamed identifier type => s.bindNullNamed r identifier type
  | .add => s.add

/-- A statement with the record of the calls that succeeded. -/
structure BoundStatement where
  statement : Statement
  record : List BindingEffect

/-- A call; one that fails changes nothing. -/
def BoundStatement.call (r : Registry) (s : BoundStatement) (c : BindingCall) : BoundStatement :=
  match s.statement.call r c, c.effect r with
  | .ok statement, .ok effect => ⟨statement, s.record ++ [effect]⟩
  | _, _ => s

/-- Applies an effect to bindings. -/
def Bindings.apply (b : Bindings) : BindingEffect → Except Error Bindings
  | .bound p => .ok (b.bind p.1 p.2)
  | .closed => b.add

/-- Only one call closes a group. -/
theorem BindingCall.eq_add_of_effect {r : Registry} {c : BindingCall}
    (h : c.effect r = .ok .closed) : c = .add := by
  cases c with
  | add => rfl
  | bind index v | bindNull index type =>
    obtain ⟨w, -, ⟨⟩⟩ := bind_eq_ok.mp h
  | bindNamed identifier v | bindNullNamed identifier type =>
    obtain ⟨index, -, h⟩ := bind_eq_ok.mp h
    obtain ⟨w, -, ⟨⟩⟩ := bind_eq_ok.mp h

theorem Statement.call_eq (r : Registry) (s : Statement) (c : BindingCall) : s.call r c = do
    let bindings ← s.bindings.apply (← c.effect r)
    return { s with bindings } := by
  cases c with
  | bind index v =>
    simp only [call, bind, BindingCall.effect]
    cases r.encode v <;> rfl
  | bindNamed identifier v =>
    simp only [call, bindNamed, bind, BindingCall.effect]
    cases parameterIndex identifier <;> cases r.encode v <;> rfl
  | bindNull index type =>
    simp only [call, bindNull, BindingCall.effect]
    cases r.encodeNull type <;> rfl
  | bindNullNamed identifier type =>
    simp only [call, bindNullNamed, bindNull, BindingCall.effect]
    cases parameterIndex identifier <;> cases r.encodeNull type <;> rfl
  | add => rfl

/-! ### Runs and groups -/

namespace BindingEffect

/-- The record of runs that have all been closed. -/
def closedRuns (done : List (List (Nat × Value))) : List BindingEffect :=
  done.flatMap fun run => run.map .bound ++ [.closed]

theorem closedRuns_concat (done : List (List (Nat × Value))) (run : List (Nat × Value)) :
    closedRuns (done ++ [run]) = closedRuns done ++ run.map .bound ++ [.closed] := by
  simp [closedRuns]

theorem isClosed_of_mem_map {run : List (Nat × Value)} :
    ∀ e ∈ run.map BindingEffect.bound, e.isClosed = false := by
  intro e he
  obtain ⟨p, -, rfl⟩ := List.mem_map.mp he
  rfl

theorem filterMap_map_bound (run : List (Nat × Value)) :
    (run.map BindingEffect.bound).filterMap parameter? = run := by
  rw [List.filterMap_map]
  exact List.filterMap_some

theorem runs_map_bound {run : List (Nat × Value)} (h : run ≠ []) :
    runs (run.map .bound) = [run] := by
  rw [runs, List.splitOnP_eq_singleton isClosed_of_mem_map, List.map_singleton,
    filterMap_map_bound]
  simp [h]

theorem runs_closedRuns_append {done : List (List (Nat × Value))} (h : ∀ run ∈ done, run ≠ [])
    (record : List BindingEffect) : runs (closedRuns done ++ record) = done ++ runs record := by
  induction done with
  | nil => rfl
  | cons run done ih =>
    obtain ⟨hrun, hdone⟩ := List.forall_mem_cons.mp h
    have hsplit : closedRuns (run :: done) ++ record =
        run.map .bound ++ .closed :: (closedRuns done ++ record) := by
      simp [closedRuns]
    rw [hsplit, runs, List.splitOnP_append_cons_of_forall_mem isClosed_of_mem_map .closed rfl,
      List.map_cons, filterMap_map_bound, List.filter_cons_of_pos (by simpa using hrun),
      List.cons_append, ← ih hdone]
    rfl

theorem runs_closedRuns {done : List (List (Nat × Value))} (h : ∀ run ∈ done, run ≠ []) :
    runs (closedRuns done) = done := by
  have happend := runs_closedRuns_append h []
  rw [List.append_nil] at happend
  rw [happend]
  exact List.append_nil done

end BindingEffect

namespace Bindings

open BindingEffect

/-- The bindings that a record leaves, with no run open or with one that has at least one bind. -/
inductive Follows : List BindingEffect → Bindings → Prop
  | between {done : List (List (Nat × Value))} : (∀ run ∈ done, run ≠ []) →
      Follows (closedRuns done) ⟨done.map .ofRun, none⟩
  | within {done : List (List (Nat × Value))} {run : List (Nat × Value)} {p : Nat × Value} :
      (∀ run ∈ done, run ≠ []) → Follows (closedRuns done ++ (run ++ [p]).map .bound)
        ⟨done.map .ofRun, some (.ofRun (run ++ [p]))⟩

variable {record : List BindingEffect} {b : Bindings}

theorem Follows.empty : Follows [] .empty := @Follows.between [] nofun

/-- What a call does to the bindings it does to the record. -/
theorem Follows.apply (h : Follows record b) {effect : BindingEffect} {next : Bindings}
    (hnext : b.apply effect = .ok next) : Follows (record ++ [effect]) next := by
  cases effect with
  | bound q =>
    obtain rfl := Except.ok.inj hnext
    cases h with
    | between hdone => exact @Follows.within _ [] q hdone
    | @within done run p hdone =>
      rw [List.append_assoc, ← List.map_singleton, ← List.map_append]
      have hnext := @Follows.within done (run ++ [p]) q hdone
      rw [Binding.ofRun_concat] at hnext
      exact hnext
  | closed =>
    cases h with
    | between hdone => cases hnext
    | @within done run p hdone =>
      obtain rfl := Except.ok.inj hnext
      rw [← closedRuns_concat, ← List.map_singleton (f := Binding.ofRun), ← List.map_append]
      refine .between fun run' hrun => ?_
      rcases List.mem_append.mp hrun with hrun | hrun
      · exact hdone run' hrun
      · rw [List.mem_singleton.mp hrun]
        simp

/-- The groups are the runs of the record. -/
theorem Follows.groups_eq (h : Follows record b) :
    b.groups = (runs record).map .ofRun ∧ ∀ run ∈ runs record, run ≠ [] := by
  cases h with
  | between hdone =>
    rw [runs_closedRuns hdone]
    exact ⟨List.append_nil _, hdone⟩
  | @within done run p hdone =>
    have hrun : run ++ [p] ≠ [] := by simp
    rw [runs_closedRuns_append hdone, runs_map_bound hrun]
    refine ⟨by rw [List.map_append]; rfl, fun run' hmem => ?_⟩
    rcases List.mem_append.mp hmem with hmem | hmem
    · exact hdone run' hmem
    · rwa [List.mem_singleton.mp hmem]

/-- The record has no binds and nothing is bound; or it ends with a closing, and no group is open;
or it ends with a bind, and a group is open. -/
theorem Follows.cases (h : Follows record b) :
    (b = .empty ∧ record = []) ∨
      (b.state = .awaitingGroup ∧ b.current = none ∧ record.getLast? = some .closed ∧
        ∃ p, .bound p ∈ record) ∨
      ∃ p, b.state = .bound ∧ b.current.isSome = true ∧ record.getLast? = some (.bound p) := by
  cases h with
  | @between done hdone =>
    rcases List.eq_nil_or_concat done with rfl | ⟨before, run, rfl⟩
    · exact .inl ⟨rfl, rfl⟩
    · rw [List.concat_eq_append] at hdone ⊢
      have hrun : run ≠ [] := hdone run (by simp)
      obtain ⟨p, hp⟩ := List.exists_mem_of_ne_nil run hrun
      refine .inr (.inl ⟨?_, rfl, ?_, p, ?_⟩)
      · simp [state]
      · rw [closedRuns_concat, List.getLast?_concat]
      · simp [closedRuns, hp]
  | @within done run p hdone =>
    refine .inr (.inr ⟨p, rfl, rfl, ?_⟩)
    rw [List.map_append, List.map_singleton, ← List.append_assoc, List.getLast?_concat]

theorem Follows.state_eq (h : Follows record b) :
    (b.state = .empty ↔ ∀ p, .bound p ∉ record) ∧
      (b.state = .awaitingGroup ↔ record.getLast? = some .closed) ∧
      (b.state = .bound ↔ (∃ p, .bound p ∈ record) ∧ record.getLast? ≠ some .closed) := by
  rcases h.cases with ⟨rfl, rfl⟩ | ⟨hstate, -, hlast, p, hp⟩ | ⟨p, hstate, -, hlast⟩
  · simp [state, Bindings.empty]
  · rw [hstate, hlast]
    simp only [reduceCtorEq, false_iff, not_forall, not_not, ne_eq, not_true, and_false, iff_self,
      and_true]
    exact ⟨p, hp⟩
  · have hp : BindingEffect.bound p ∈ record := List.mem_of_getLast? hlast
    rw [hstate, hlast]
    simp only [reduceCtorEq, false_iff, not_forall, not_not, Option.some.injEq, iff_self, true_iff,
      ne_eq, not_false_iff, and_true, true_and]
    exact ⟨⟨p, hp⟩, p, hp⟩

/-- A closing is refused where the record does not end with a bind. -/
theorem Follows.add_eq_error (h : Follows record b) {e : Error} :
    b.add = .error e ↔ e = .nothingBound ∧ ∀ p, record.getLast? ≠ some (.bound p) := by
  have hclosed : b.current = none → (b.add = .error e ↔ e = .nothingBound) := by
    intro hcurrent
    rw [add, hcurrent]
    simp [eq_comm]
  rcases h.cases with ⟨rfl, rfl⟩ | ⟨-, hcurrent, hlast, -⟩ | ⟨p, -, hcurrent, hlast⟩
  · rw [hclosed rfl]
    simp
  · rw [hclosed hcurrent, hlast]
    simp
  · obtain ⟨group, hgroup⟩ := Option.isSome_iff_exists.mp hcurrent
    rw [add, hgroup, hlast]
    simp

theorem Follows.executions_of_closed (h : Follows record b)
    (hlast : record.getLast? = some .closed) : b.executions = .error .unfinishedGroup := by
  rw [executions, h.state_eq.2.1.mpr hlast]

/-- But for a closing at the end, the groups are executed, or one without parameters if there are
none. -/
theorem Follows.executions_of_not_closed (h : Follows record b)
    (hlast : record.getLast? ≠ some .closed) :
    b.executions = .ok (if runs record = [] then [.empty] else (runs record).map .ofRun) := by
  have hgroups := h.groups_eq.1
  rcases h.cases with ⟨rfl, rfl⟩ | ⟨-, -, hclosed, -⟩ | ⟨p, hstate, hcurrent, -⟩
  · rfl
  · exact absurd hclosed hlast
  · obtain ⟨group, hgroup⟩ := Option.isSome_iff_exists.mp hcurrent
    have hne : runs record ≠ [] := by
      intro hnil
      rw [hnil, groups, hgroup] at hgroups
      simp at hgroups
    rw [executions, hstate, if_neg hne, ← hgroups]

end Bindings

/-! ### Executions -/

/-- Why nothing can be executed after the calls in a record. -/
inductive Unready (record : List BindingEffect) : Error → Prop
  /-- The last call closed a group. -/
  | awaitingGroup : record.getLast? = some .closed → Unready record .unfinishedGroup
  /-- This is the first run with a gap. -/
  | gap {before after : List (List (Nat × Value))} {run : List (Nat × Value)} {m : Nat} :
      record.getLast? ≠ some .closed → BindingEffect.runs record = before ++ run :: after →
      (∀ earlier ∈ before, Gapless earlier) → ¬ Gapless run → FirstMissing run m →
      Unready record (.parameterNotSet (m + 1))

namespace Statement

open BindingEffect

variable {s : Statement} {record : List BindingEffect}

theorem execute_eq_error {e : Error} : s.execute = .error e ↔ s.bindings.executions = .error e ∨
    ∃ groups, s.bindings.executions = .ok groups ∧ groups.mapM Binding.values = .error e := by
  have hjobs : s.execute = .error e ↔ s.jobs = .error e := by
    rw [execute, bind_eq_error]
    refine or_iff_left ?_
    rintro ⟨jobs, -, ⟨⟩⟩
  rw [hjobs, jobs, bind_eq_error]
  refine or_congr_right (exists_congr fun groups => and_congr_right fun _ => ?_)
  rw [bind_eq_error]
  refine or_iff_left ?_
  rintro ⟨params, -, ⟨⟩⟩

/-- An execution is refused for one of the reasons. -/
theorem execute_eq_error_iff (h : s.bindings.Follows record) {e : Error} :
    s.execute = .error e ↔ Unready record e := by
  rw [execute_eq_error]
  by_cases hlast : record.getLast? = some .closed
  · rw [h.executions_of_closed hlast]
    constructor
    · rintro (herror | ⟨groups, ⟨⟩, -⟩)
      rw [← Except.error.inj herror]
      exact .awaitingGroup hlast
    · rintro (_ | ⟨hopen, -⟩)
      · exact .inl rfl
      · exact absurd hlast hopen
  · rw [h.executions_of_not_closed hlast]
    constructor
    · rintro (hopen | ⟨groups, hgroups, herror⟩)
      · cases hopen
      rw [← Except.ok.inj hgroups] at herror
      split_ifs at herror with hnil
      · cases herror
      · rw [List.mapM_map, mapM_eq_error] at herror
        obtain ⟨before, run, after, hruns, hbefore, herror⟩ := herror
        obtain ⟨hgap, m, hm, rfl⟩ := Binding.values_eq_error.mp herror
        exact .gap hlast hruns (fun earlier hmem => Binding.values_eq_ok.mp (hbefore earlier hmem))
          hgap hm
    · rintro (hclosed | @⟨before, after, run, m, -, hruns, hbefore, hgap, hm⟩)
      · exact absurd hclosed hlast
      · refine .inr ⟨_, rfl, ?_⟩
        have hne : runs record ≠ [] := by simp [hruns]
        rw [if_neg hne, List.mapM_map, mapM_eq_error]
        exact ⟨before, run, after, hruns,
          fun earlier hmem => Binding.values_eq_ok.mpr (hbefore earlier hmem),
          Binding.values_eq_error.mpr ⟨hgap, m, hm, rfl⟩⟩

/-- An execution that is not refused has the last values of every run. -/
theorem execute_params (h : s.bindings.Follows record) {stream : ResultStream}
    (hstream : s.execute = .ok stream) : ∃ params : List (List Value),
      stream = .ofJobs (((Sql.statements s.sql).product params).map fun p => ⟨p.1, p.2⟩) s.keys ∧
      if runs record = [] then params = [[]]
      else List.Forall₂ (fun run values => ∀ i : Nat, values[i]? = lastBound run i)
        (runs record) params := by
  obtain ⟨params, hparams, rfl⟩ := s.execute_eq_ok hstream
  refine ⟨params, rfl, ?_⟩
  rw [Bindings.executed, h.groups_eq.1, List.isEmpty_map] at hparams
  split_ifs with hnil
  · rw [hnil] at hparams
    have hinj : Function.Injective (Except.ok : List Value → Except Error _) :=
      fun _ _ => Except.ok.inj
    have hsame : [[]] = params := List.map_injective_iff.mpr hinj hparams
    exact hsame.symm
  · rw [if_neg (by simpa using hnil)] at hparams
    rw [List.map_map, ← List.forall₂_eq_eq_eq] at hparams
    have hvalues := List.forall₂_map_right_iff.mp (List.forall₂_map_left_iff.mp hparams)
    refine hvalues.imp fun run values hok => ?_
    rw [Function.comp_apply] at hok
    rcases Binding.values_ofRun run with ⟨values', hvalues', -, hlast⟩ | ⟨m, herror, -⟩
    · rw [hok] at hvalues'
      rwa [Except.ok.inj hvalues']
    · rw [hok] at herror
      cases herror

end Statement

/-! ### Any calls -/

namespace BoundStatement

open BindingEffect

variable {s : BoundStatement}

/-- A call keeps record and bindings together, and the rest of the statement as it is. -/
theorem follows_call (r : Registry) (h : s.statement.bindings.Follows s.record) (c : BindingCall) :
    (s.call r c).statement.bindings.Follows (s.call r c).record ∧
      (s.call r c).statement.sql = s.statement.sql ∧
      (s.call r c).statement.keys = s.statement.keys := by
  rw [call]
  cases hcall : s.statement.call r c with
  | error e => exact ⟨h, rfl, rfl⟩
  | ok statement =>
    rw [Statement.call_eq] at hcall
    obtain ⟨effect, heffect, hcall⟩ := bind_eq_ok.mp hcall
    obtain ⟨bindings, happly, hcall⟩ := bind_eq_ok.mp hcall
    rw [heffect, ← Except.ok.inj hcall]
    exact ⟨h.apply happly, rfl, rfl⟩

theorem follows_calls (r : Registry) (h : s.statement.bindings.Follows s.record)
    (calls : List BindingCall) :
    (calls.foldl (call r) s).statement.bindings.Follows (calls.foldl (call r) s).record ∧
      (calls.foldl (call r) s).statement.sql = s.statement.sql ∧
      (calls.foldl (call r) s).statement.keys = s.statement.keys := by
  induction calls generalizing s with
  | nil => exact ⟨h, rfl, rfl⟩
  | cons c calls ih =>
    obtain ⟨hnext, hsql, hkeys⟩ := follows_call r h c
    rw [List.foldl_cons, ← hsql, ← hkeys]
    exact ih hnext

/-- A call is refused if identifier or value are not in order, or if it closes a group in which
nothing has been bound. -/
theorem call_eq_error (r : Registry) (h : s.statement.bindings.Follows s.record) {c : BindingCall}
    {e : Error} : s.statement.call r c = .error e ↔ c.effect r = .error e ∨
      c = .add ∧ e = .nothingBound ∧ ∀ p, s.record.getLast? ≠ some (.bound p) := by
  rw [Statement.call_eq, bind_eq_error]
  refine or_congr_right ?_
  constructor
  · rintro ⟨effect, heffect, herror⟩
    rw [bind_eq_error] at herror
    rcases herror with herror | ⟨bindings, -, herror⟩
    · cases effect with
      | bound p => cases herror
      | closed => exact ⟨BindingCall.eq_add_of_effect heffect, h.add_eq_error.mp herror⟩
    · cases herror
  · rintro ⟨rfl, herror⟩
    refine ⟨.closed, rfl, bind_eq_error.mpr (.inl ?_)⟩
    exact h.add_eq_error.mpr herror

/-- Whatever calls are made on a statement, each of them is refused if its identifier is none, if
its value cannot be written, or if it closes a group in which nothing was bound, and then it changes
nothing. The groups are the runs of the binds that succeeded between the closings that did, none of
them empty, with the last value that was bound to each index; the state is what the last of these
calls was. An execution is refused after a closing, and for the first group that leaves out an index
below one it has, with the number of the first parameter left out; no other is refused, and it runs
every statement of the text with the last values of every group, or without parameters if nothing
was bound. -/
theorem binding_protocol (r : Registry) (sql : String) (keys : GeneratedKeys)
    (calls : List BindingCall) :
    let s := calls.foldl (call r) ⟨⟨sql, .empty, keys⟩, []⟩
    (∀ c e, s.statement.call r c = .error e ↔ c.effect r = .error e ∨
        c = .add ∧ e = .nothingBound ∧ ∀ p, s.record.getLast? ≠ some (.bound p)) ∧
      (∀ c e, s.statement.call r c = .error e → s.call r c = s) ∧
      List.Forall₂ (fun run group => run ≠ [] ∧ group.isEmpty = false ∧
          ∀ i, group.parameters.lookup i = lastBound run i)
        (runs s.record) s.statement.bindings.groups ∧
      ((s.statement.bindings.state = .empty ↔ ∀ p, .bound p ∉ s.record) ∧
        (s.statement.bindings.state = .awaitingGroup ↔ s.record.getLast? = some .closed) ∧
        (s.statement.bindings.state = .bound ↔
          (∃ p, .bound p ∈ s.record) ∧ s.record.getLast? ≠ some .closed)) ∧
      (∀ e, s.statement.execute = .error e ↔ Unready s.record e) ∧
      (∀ e, s.statement.execute = .error e → e.kind = .invalidState) ∧
      ∀ stream, s.statement.execute = .ok stream → ∃ params : List (List Value),
        stream = .ofJobs (((Sql.statements sql).product params).map fun p => ⟨p.1, p.2⟩) keys ∧
        if runs s.record = [] then params = [[]]
        else List.Forall₂ (fun run values => ∀ i : Nat, values[i]? = lastBound run i)
          (runs s.record) params := by
  intro s
  obtain ⟨h, hsql, hkeys⟩ : s.statement.bindings.Follows s.record ∧ s.statement.sql = sql ∧
      s.statement.keys = keys := follows_calls r .empty calls
  refine ⟨fun c e => call_eq_error r h, fun c e he => ?_, ?_, h.state_eq,
    fun e => Statement.execute_eq_error_iff h, fun e he => ?_, fun stream hstream => ?_⟩
  · rw [call, he]
  · obtain ⟨hgroups, hne⟩ := h.groups_eq
    rw [hgroups, List.forall₂_map_right_iff, List.forall₂_same]
    intro run hrun
    exact ⟨hne run hrun, Binding.isEmpty_ofRun (hne run hrun), Binding.lookup_ofRun run⟩
  · cases (Statement.execute_eq_error_iff h).mp he <;> rfl
  · rw [← hsql, ← hkeys]
    exact Statement.execute_params h hstream

end BoundStatement

end SqlClient
