import SqlClient.EnumValue
import SqlClient.Proofs.Text.Trim

/-!
# Resolved labels

The spelling of the member that a label stands for is a label of the same member: it is found by its
exact spelling, and no member before it is spelled so. A label that stands for no member is refused.
-/

namespace SqlClient.EnumValue

open Text

variable {members : List String} {name : String} {test : String → Bool} {e : EnumValue}

theorem find?_eq_some (h : find? members test = some e) :
    e.members = members ∧ e.ordinal = members.findIdx test ∧ test e.label = true := by
  rw [find?] at h
  split_ifs at h with hlt
  obtain rfl := Option.some.inj h
  exact ⟨rfl, rfl, List.findIdx_getElem⟩

/-- The first member that passes a test is the first one of its spelling, since those before it of
the same spelling would pass the test as well. -/
theorem find?_label (h : find? members test = some e) :
    find? members (· == e.label) = some e := by
  obtain ⟨rfl, hordinal, htest⟩ := find?_eq_some h
  have hlt := e.ordinal_lt
  have hlabel : e.members[e.ordinal] = e.label := rfl
  have hfirst : e.members.findIdx (· == e.label) = e.ordinal := by
    refine (List.findIdx_eq hlt).mpr ⟨beq_iff_eq.mpr hlabel, fun i hi => ?_⟩
    have hfails : test e.members[i] = false := List.not_of_lt_findIdx (hordinal ▸ hi)
    rw [beq_eq_false_iff_ne]
    intro heq
    rw [heq, htest] at hfails
    cases hfails
  rw [find?, dif_pos (hfirst ▸ hlt)]
  simp only [hfirst]

theorem resolve_eq_ok (h : resolve members name = .ok e) :
    find? members (· == trim name) = some e ∨
      find? members (equalIgnoringCase · (trim name)) = some e := by
  rw [resolve] at h
  split at h
  next hfind =>
    obtain rfl := Except.ok.inj h
    rcases Option.or_eq_some_iff.mp hfind with hexact | ⟨-, hcase⟩
    · exact .inl hexact
    · exact .inr hcase
  next => cases h

theorem find?_of_resolve (h : resolve members name = .ok e) :
    find? members (· == e.label) = some e := by
  rcases resolve_eq_ok h with hfind | hfind <;> exact find?_label hfind

/-- A member that is found has no blanks around its name, as the label that was looked for had none.
-/
theorem trim_label (h : resolve members name = .ok e) : trim e.label = e.label := by
  have hwanted : trimChars (trim name).toList = (trim name).toList := by
    rw [trim, String.toList_ofList, trimChars_trimChars]
  have hlower : e.label.toList.map Char.toLower = (trim name).toList.map Char.toLower := by
    rcases resolve_eq_ok h with hfind | hfind
    · rw [eq_of_beq (find?_eq_some hfind).2.2]
    · exact eq_of_beq (find?_eq_some hfind).2.2
  have htrimmed : trimChars e.label.toList = e.label.toList := by
    refine trimChars_eq_self ?_
    have hmap : (trimChars e.label.toList).map Char.toLower =
        e.label.toList.map Char.toLower := by
      rw [← trimChars_map isBlank_toLower, hlower, trimChars_map isBlank_toLower, hwanted]
    simpa using congrArg List.length hmap
  rw [trim, htrimmed, String.ofList_toList]

theorem resolve_label (h : resolve members name = .ok e) : resolve e.members e.label = .ok e := by
  have hfind := find?_of_resolve h
  obtain ⟨rfl, -, -⟩ := find?_eq_some hfind
  simp only [resolve, trim_label h, hfind, Option.some_or]

/-! ### Labels and members -/

theorem getElem?_ordinal (e : EnumValue) : e.members[e.ordinal]? = some e.label :=
  List.getElem?_eq_getElem e.ordinal_lt

theorem label_mem (e : EnumValue) : e.label ∈ e.members := List.mem_of_getElem? e.getElem?_ordinal

/-- No member before the one that is found has its spelling. -/
theorem getElem?_ne_label (h : resolve members name = .ok e) {i : Nat} (hi : i < e.ordinal) :
    members[i]? ≠ some e.label := by
  obtain ⟨hmembers, hordinal, -⟩ := find?_eq_some (find?_of_resolve h)
  have hlt : i < members.length := hmembers ▸ hi.trans e.ordinal_lt
  have hbefore : i < members.findIdx (· == e.label) := hordinal ▸ hi
  have hfails : (members[i] == e.label) = false := List.not_of_lt_findIdx hbefore
  rw [List.getElem?_eq_getElem hlt, ne_eq, Option.some_inj]
  exact ne_of_beq_false hfails

/-- How a label is refused that stands for no member. -/
def notPermitted (members : List String) (name : String) : EngineError :=
  .dataConversion ("Value '" ++ name ++ "' is not permitted, expected one of (" ++
    ", ".intercalate members ++ ")")

theorem find?_eq_none (h : find? members test = none) {m : String} (hm : m ∈ members) :
    test m = false := by
  rw [find?] at h
  split_ifs at h with hlt
  rw [List.findIdx_lt_length] at hlt
  rw [Bool.eq_false_iff]
  exact fun htest => hlt ⟨m, hm, htest⟩

/-- A label stands for a member that differs from it in blanks around it and in case at most, or it
is refused and there is no such member. -/
theorem resolve_cases (members : List String) (name : String) :
    (∃ e, resolve members name = .ok e ∧ e.members = members ∧
      equalIgnoringCase e.label (trim name) = true) ∨
    resolve members name = .error (notPermitted members name) ∧
      ∀ m ∈ members, equalIgnoringCase m (trim name) = false := by
  cases hresolve : resolve members name with
  | ok e =>
    refine .inl ⟨e, rfl, ?_⟩
    rcases resolve_eq_ok hresolve with hfind | hfind
    · obtain ⟨hmembers, -, htest⟩ := find?_eq_some hfind
      refine ⟨hmembers, ?_⟩
      rw [eq_of_beq htest, equalIgnoringCase, beq_self_eq_true]
    · obtain ⟨hmembers, -, htest⟩ := find?_eq_some hfind
      exact ⟨hmembers, htest⟩
  | error e =>
    rw [resolve] at hresolve
    split at hresolve
    next => cases hresolve
    next hfind =>
      refine .inr ⟨hresolve.symm, fun m hm => ?_⟩
      exact find?_eq_none (Option.or_eq_none_iff.mp hfind).2 hm

/-- A label is refused if and only if it stands for no member. -/
theorem resolve_eq_error_iff : resolve members name = .error (notPermitted members name) ↔
    ∀ m ∈ members, equalIgnoringCase m (trim name) = false := by
  rcases resolve_cases members name with ⟨e, hok, hmembers, hlike⟩ | ⟨herror, hnone⟩
  · rw [hok]
    refine iff_of_false nofun fun hnone => ?_
    rw [hnone e.label (hmembers ▸ e.label_mem)] at hlike
    cases hlike
  · exact iff_of_true herror hnone

/-- A member spelled exactly like the label comes before members that differ in case. -/
theorem label_eq_of_mem (h : resolve members name = .ok e) (hmem : trim name ∈ members) :
    e.label = trim name := by
  rw [resolve] at h
  split at h
  next hfind =>
    obtain rfl := Except.ok.inj h
    rcases Option.or_eq_some_iff.mp hfind with hexact | ⟨hnone, -⟩
    · exact eq_of_beq (find?_eq_some hexact).2.2
    · exact absurd (beq_self_eq_true (trim name))
        (ne_true_of_eq_false (find?_eq_none hnone hmem))
  next => cases h

/-- Of different members each is the first of its spelling, so a member that is looked for as it is
spelled is found. -/
theorem find?_getElem (hnodup : members.Nodup) {i : Nat} (hi : i < members.length) :
    find? members (· == members[i]) = some ⟨members, i, hi⟩ := by
  have hfirst : members.findIdx (· == members[i]) = i := hnodup.idxOf_getElem i hi
  rw [find?, dif_pos (hfirst.symm ▸ hi)]
  simp only [hfirst]

/-- A member is what its own name stands for if and only if there are no blanks around the name. -/
theorem resolve_getElem_eq_ok_iff (hnodup : members.Nodup) {i : Nat} (hi : i < members.length) :
    resolve members members[i] = .ok ⟨members, i, hi⟩ ↔ trim members[i] = members[i] := by
  have hlabel : (⟨members, i, hi⟩ : EnumValue).label = members[i] := rfl
  constructor
  · intro h
    have htrim := trim_label h
    rwa [hlabel] at htrim
  · intro htrim
    simp only [resolve, htrim, find?_getElem hnodup hi, Option.some_or]

end SqlClient.EnumValue
