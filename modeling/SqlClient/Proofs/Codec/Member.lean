import SqlClient.Proofs.Codec.RoundTrip
import SqlClient.Proofs.EnumValue

/-!
# Members of enum types

A client names a member of an enum type, and the engine takes its position. The name is trimmed
before it is looked for, the names of the members are not: a member with blanks around its name is
taken for another one or refused, and any other member is written as itself. A member that has been
found for a label has no blanks around its name, so it is read and written as itself.
-/

namespace SqlClient

theorem Codec.engineResult_enum_eq_ok_iff {result : Except EngineError EnumValue} {e : EnumValue} :
    engineResult .enum result = .ok (.enum e) ↔ result = .ok e := by
  cases result with
  | error _ => exact ⟨nofun, nofun⟩
  | ok e' => simp [engineResult]

namespace Registry

variable {r : Registry} {session : SessionSettings}

theorem find?_eq_some_of_unique {α : Type} {p : α → Bool} {a : α} {as : List α} (hmem : a ∈ as)
    (ha : p a = true) (hunique : ∀ b, p b = true → b = a) : as.find? p = some a := by
  cases hfind : as.find? p with
  | none => exact absurd ha (List.find?_eq_none.mp hfind a hmem)
  | some b => rw [hunique b (List.find?_some hfind)]

/-- One codec alone writes members of enum types. -/
theorem encode_enum_eq (hr : .enum ∈ r.codecs) (name : String) (members : List String) :
    r.encode (.enum name members) =
      Codec.engineResult .enum (EnumValue.resolve members name) := by
  refine encode_of_find rfl (find?_eq_some_of_unique hr rfl fun c hc => ?_)
  have htype : HostType.enum = c.type := eq_of_beq hc
  cases c with
  | enum => rfl
  | _ => cases htype

/-- One codec alone reads them, and takes the name from the position. -/
theorem decode_enum_eq (hr : .enum ∈ r.codecs) {target : HostType}
    (htarget : target = .any ∨ target = .enum) (e : EnumValue) :
    r.decode session .enum target (.enum e) = .ok (some (.enum e.label e.members)) := by
  refine decode_of_find rfl (find?_eq_some_of_unique hr ?_ fun c hc => ?_) rfl
  · rcases htarget with rfl | rfl <;> rfl
  · rw [Codec.canDecode, Bool.and_eq_true] at hc
    cases c with
    | enum => rfl
    | _ => exact absurd hc.2 (by decide)

/-- A member of an enum type whose members are all different is written as itself if and only if
there are no blanks around its name. What that is read as is the member again. With blanks around
its name it is written as another member, one spelled like the name without the blanks up to the
case of ASCII letters, or refused if there is none. -/
theorem member_round_trip (hr : .enum ∈ r.codecs) (session : SessionSettings)
    {members : List String} (hnodup : members.Nodup) {i : Nat} (hi : i < members.length) :
    let e : EnumValue := ⟨members, i, hi⟩
    let host : HostValue := .enum members[i] members
    (∀ t : EnumType, t.members = members → HostValue.ofEnum t i = host) ∧
    e.label = members[i] ∧
    (r.encode host = .ok (.enum e) ↔ Text.trim members[i] = members[i]) ∧
    (∀ target, target = .any ∨ target = .enum →
      r.decode session .enum target (.enum e) = .ok (some host)) ∧
    (Text.trim members[i] ≠ members[i] →
      (∃ other, r.encode host = .ok (.enum other) ∧ other.members = members ∧ other.ordinal ≠ i ∧
        equalIgnoringCase other.label (Text.trim members[i]) = true) ∨
      r.encode host = .error (.engine (EnumValue.notPermitted members members[i])) ∧
        ∀ m ∈ members, equalIgnoringCase m (Text.trim members[i]) = false) := by
  intro e host
  refine ⟨fun t ht => ?_, rfl, ?_, fun target htarget => decode_enum_eq hr htarget e,
    fun htrim => ?_⟩
  · subst ht
    simp only [HostValue.ofEnum, EnumType.nameOf, List.getD_eq_getElem?_getD,
      List.getElem?_eq_getElem hi, Option.getD_some, host]
  · rw [encode_enum_eq hr, ← EnumValue.resolve_getElem_eq_ok_iff hnodup hi]
    exact Codec.engineResult_enum_eq_ok_iff
  · rw [encode_enum_eq hr]
    rcases EnumValue.resolve_cases members members[i] with ⟨other, hok, hmembers, hlike⟩ | hrefused
    · rw [hok]
      refine .inl ⟨other, rfl, hmembers, fun hordinal => htrim ?_, hlike⟩
      have hsame : other = ⟨members, i, hi⟩ := by
        obtain ⟨_, _, _⟩ := other
        obtain rfl := hmembers
        obtain rfl := hordinal
        rfl
      rw [← EnumValue.resolve_getElem_eq_ok_iff hnodup hi, hok, hsame]
    · rw [hrefused.1]
      exact .inr ⟨rfl, hrefused.2⟩

/-- The names differ in case, in a blank, or are empty. -/
theorem member_round_trip_of_variants :
    let members := ["Sad ", "SAD", "Sad", ""]
    let host : HostValue := .enum "Sad" members
    let e : EnumValue := ⟨members, 2, by decide⟩
    (.enum ∈ (standard true).codecs ∧ members.Nodup ∧ Text.trim "Sad" = "Sad") ∧
      (standard true).encode host = .ok (.enum e) ∧
      (standard true).decode ⟨none⟩ .enum .enum (.enum e) = .ok (some host) := by
  intro members host e
  have hcodec : Codec.enum ∈ (standard true).codecs := by decide
  have hnodup : members.Nodup := by decide
  have htrim : Text.trim "Sad" = "Sad" := by decide
  obtain ⟨-, -, hencode, hdecode, -⟩ :=
    member_round_trip hcodec ⟨none⟩ hnodup (i := 2) (by decide)
  exact ⟨⟨hcodec, hnodup, htrim⟩, hencode.mpr htrim, hdecode .enum (.inr rfl)⟩

/-- Of two members the first has a blank in front of the name of the second, and is written as the
second. Without that it is refused. -/
theorem blank_member_displaced :
    let members := [" a", "a"]
    let second : EnumValue := ⟨members, 1, by decide⟩
    members.Nodup ∧ HostValue.ofEnum ⟨members, fun _ => true⟩ 0 = .enum " a" members ∧
      (standard false).encode (.enum " a" members) = .ok (.enum second) ∧
      (standard false).decode ⟨none⟩ .enum .enum (.enum second) = .ok (some (.enum "a" members)) ∧
      (standard false).encode (.enum " a" [" a"]) = .error (.engine
        (.dataConversion "Value ' a' is not permitted, expected one of ( a)")) := by
  intro members second
  refine ⟨by decide, rfl, rfl, rfl, rfl⟩

/-- The member that a label stands for is spelled like the label, blanks around it left out, up to
the case of ASCII letters, and exactly so if any member is. It is the first member of its spelling,
and the codec of enum types reads it as its name and writes this name as the same member. A label is
refused if and only if no member is spelled like it. -/
theorem label_settled (r : Registry) (session : SessionSettings) (members : List String)
    (label : String) :
    (∀ e, EnumValue.resolve members label = .ok e →
      e.members = members ∧ members[e.ordinal]? = some e.label ∧
      equalIgnoringCase e.label (Text.trim label) = true ∧
      (Text.trim label ∈ members → e.label = Text.trim label) ∧
      (∀ i < e.ordinal, members[i]? ≠ some e.label) ∧
      r.decodeBy .enum session (.enum e) = .ok (some (.enum e.label members)) ∧
      r.encodeBy .enum (.enum e.label members) = .ok (.enum e)) ∧
    ((∃ error, EnumValue.resolve members label = .error error) ↔
      ∀ m ∈ members, equalIgnoringCase m (Text.trim label) = false) ∧
    (EnumValue.resolve members label = .error (EnumValue.notPermitted members label) ↔
      ∀ m ∈ members, equalIgnoringCase m (Text.trim label) = false) := by
  refine ⟨fun e he => ?_, ?_, EnumValue.resolve_eq_error_iff⟩
  · have hcases := EnumValue.resolve_cases members label
    rw [he] at hcases
    rcases hcases with ⟨_, heq, hmembers, hlike⟩ | ⟨herror, -⟩
    · obtain rfl := Except.ok.inj heq
      have hresolve := EnumValue.resolve_label he
      rw [hmembers] at hresolve
      refine ⟨hmembers, hmembers ▸ e.getElem?_ordinal, hlike, EnumValue.label_eq_of_mem he,
        fun i => EnumValue.getElem?_ne_label he, ?_, ?_⟩
      · rw [← hmembers]
        rfl
      · exact Codec.engineResult_enum_eq_ok_iff.mpr hresolve
    · cases herror
  · rw [← EnumValue.resolve_eq_error_iff]
    refine ⟨fun ⟨error, herror⟩ => ?_, fun herror => ⟨_, herror⟩⟩
    rcases EnumValue.resolve_cases members label with ⟨e, hok, -⟩ | ⟨hrefused, -⟩
    · rw [hok] at herror
      cases herror
    · exact hrefused

end Registry

end SqlClient
