import SqlClient.Proofs.Codec.Passes

/-!
# Where the time zone of a session counts

A session is at hand in every conversion, down to the items of arrays and the values of parameters.
No codec is given the session when it writes: what an array or a parameter holds is written in the
same session, and that is all that becomes of it. When it is read, a session's time zone is looked
at in one place only: where a timestamp without a zone is read as one that has a zone. Two sessions
convert all else alike.
-/

namespace SqlClient

/-- A timestamp without a zone, where one with a zone is asked for. -/
def Value.NeedsZone (v : Value) (target : HostType) : Prop :=
  (∃ t, v = .timestamp t) ∧ (target = .offsetDateTime ∨ target = .instant)

theorem Value.not_needsZone_any (v : Value) : ¬ v.NeedsZone .any := by
  rintro ⟨-, h | h⟩ <;> cases h

theorem Value.not_needsZone_array (items : List Value) (target : HostType) :
    ¬ (Value.array items).NeedsZone target := by
  rintro ⟨⟨t, ht⟩, -⟩
  cases ht

namespace Registry

/-! ### Writing in a session -/

mutual

/-- Writes a host value in a session. The codec that writes it is not given the session, which is
only handed on to what the value holds. -/
def encodeIn (r : Registry) (session : SessionSettings) : HostValue → Except Error Value
  | .array items => r.writeWith (fun _ => r.encodeItemsIn session items) noInner (.array items)
  | .parameter type value =>
    r.writeWith noItems (fun _ => r.encodeParameterIn session type value) (.parameter type value)
  | v => r.writeWith noItems noInner v

/-- Hands the session on to the items of an array, up to the first error. -/
def encodeItemsIn (r : Registry) (session : SessionSettings) :
    List (Option HostValue) → Except Error (List Value)
  | [] => .ok []
  | item :: items => do
    let v ← r.encodeItemIn session item
    return v :: (← r.encodeItemsIn session items)

/-- Hands the session on to an item of an array; a null needs none. -/
def encodeItemIn (r : Registry) (session : SessionSettings) :
    Option HostValue → Except Error Value
  | none => .ok .null
  | some v => r.encodeIn session v

/-- Hands the session on to the value of a parameter; a null of its type needs none. -/
def encodeParameterIn (r : Registry) (session : SessionSettings) (type : HostType) :
    Option HostValue → Except Error Value
  | none => r.encodeNull type
  | some v => r.encodeIn session v

end

variable {r : Registry} {session s₁ s₂ : SessionSettings}

theorem encodeItemsIn_eq_mapM (items : List (Option HostValue)) :
    r.encodeItemsIn session items = items.mapM (passItem (r.encodeIn session)) := by
  induction items with
  | nil =>
    rw [encodeItemsIn]
    rfl
  | cons item items ih =>
    have hitem : r.encodeItemIn session item = passItem (r.encodeIn session) item := by
      cases item <;> rw [encodeItemIn, passItem]
    rw [encodeItemsIn, List.mapM_cons, hitem, ih]

/-- To write in a session is to make one pass and to go on in the session. -/
theorem encodePass_encodeIn : r.encodePass (r.encodeIn session) = r.encodeIn session := by
  funext h
  cases h with
  | array items => rw [encodePass, encodeIn, encodeItemsIn_eq_mapM]
  | parameter type value =>
    have hvalue : r.passInner (r.encodeIn session) type value =
        r.encodeParameterIn session type value := by
      cases value <;> rw [encodeParameterIn, passInner]
    rw [encodePass, encodeIn, hvalue]
  | _ =>
    rw [encodePass, encodeIn]
    all_goals simp

/-- What is written of a value does not depend on the session. -/
theorem encodeIn_eq (h : HostValue) : r.encodeIn session h = r.encode h :=
  congrFun (encode_unique encodePass_encodeIn) h

/-! ### Reading in a session -/

variable {geometry : Bool} {target : HostType}

/-- A codec looks at the session for timestamps that it gives a zone, and for items. -/
theorem readBy_congr {c : Codec} {v : Value} (hc : c.Claims v)
    (hzone : ∀ t, v = .timestamp t → c ≠ .offsetDateTime ∧ c ≠ .instant)
    (hitems : ∀ items, v = .array items → r.decodeItems s₁ items = r.decodeItems s₂ items) :
    r.readBy c s₁ v = r.readBy c s₂ v := by
  cases hc with
  | zonedDateTime t => exact absurd rfl (hzone t rfl).1
  | zonedInstant t => exact absurd rfl (hzone t rfl).2
  | array items => exact congrArg (Except.map HostValue.array) (hitems items rfl)
  | _ => rfl

/-- Without a preference timestamps go to a codec that gives them no zone. -/
theorem needsZone_of_find {c : Codec} {t : DateTime}
    (hfind : (standard geometry).codecs.find? (·.canDecode .timestamp target) = some c)
    (hc : c = .offsetDateTime ∨ c = .instant) : (Value.timestamp t).NeedsZone target := by
  have haccepts : target.accepts c.type = true :=
    (claims_of_find (v := .timestamp t) hfind).1
  rw [HostType.accepts, Bool.or_eq_true, beq_iff_eq, beq_iff_eq] at haccepts
  rcases haccepts with rfl | rfl
  · have hlocal : (standard geometry).codecs.find? (·.canDecode .timestamp .any) =
        some .dateTime := rfl
    rw [hlocal] at hfind
    obtain rfl := Option.some.inj hfind
    rcases hc with hc | hc <;> cases hc
  · rcases hc with rfl | rfl
    · exact ⟨⟨t, rfl⟩, .inl rfl⟩
    · exact ⟨⟨t, rfl⟩, .inr rfl⟩

theorem decode_congr {v : Value} (hzone : ¬ v.NeedsZone target)
    (hitems : ∀ items, v = .array items →
      (standard geometry).decodeItems s₁ items = (standard geometry).decodeItems s₂ items) :
    (standard geometry).decode s₁ v.tag target v = (standard geometry).decode s₂ v.tag target v := by
  cases hnull : v.isNull with
  | true =>
    cases v with
    | null => rw [decode, decode]
    | _ => cases hnull
  | false =>
    cases hfind : (standard geometry).codecs.find? (·.canDecode v.tag target) with
    | none => rw [decode_of_unclaimed hnull hfind, decode_of_unclaimed hnull hfind]
    | some c =>
      rw [decode_eq_readBy hnull hfind, decode_eq_readBy hnull hfind]
      refine congrArg _ (readBy_congr (claims_of_find hfind).2 (fun t ht => ?_) hitems)
      subst ht
      exact ⟨fun hc => hzone (needsZone_of_find hfind (.inl hc)),
        fun hc => hzone (needsZone_of_find hfind (.inr hc))⟩

/-- Two sessions read alike what needs no zone. The items of an array are read without a preference,
so none of them does. -/
theorem decode_eq_of_not_needsZone (v : Value) (hzone : ¬ v.NeedsZone target) :
    (standard geometry).decode s₁ v.tag target v = (standard geometry).decode s₂ v.tag target v := by
  induction v using Value.nested generalizing target with
  | flat v hflat => exact decode_congr hzone fun items hv => absurd hv (hflat items)
  | array items ih =>
    refine decode_congr hzone ?_
    rintro _ ⟨⟩
    rw [decodeItems_eq_mapM]
    exact mapM_pass fun v hmem => ih v hmem (Value.not_needsZone_any v)

theorem decode_ne_noTimeZone (v : Value) (hzone : ¬ v.NeedsZone target) :
    (standard geometry).decode session v.tag target v ≠ .error .noTimeZone := by
  induction v using Value.nested generalizing target with
  | flat v hflat =>
    intro h
    have ho := (standard geometry).decodeOutcome session target v
    rw [h] at ho
    cases ho with
    | failure _ hfind he =>
      cases he with
      | noZone hc _ => exact hzone (needsZone_of_find hfind hc)
      | item _ _ => exact absurd rfl (hflat _)
  | array items ih =>
    intro h
    have ho := (standard geometry).decodeOutcome session target (.array items)
    rw [h] at ho
    cases ho with
    | failure _ _ he =>
      cases he with
      | item _ hu => exact ih _ (by simp) (Value.not_needsZone_any _) hu

/-- A timestamp that needs a zone is read by the codec of the type asked for. -/
theorem exists_find_of_needsZone (geometry : Bool) {v : Value} (hzone : v.NeedsZone target) :
    v.isNull = false ∧ ∃ c, (standard geometry).codecs.find? (·.canDecode v.tag target) = some c ∧
      (c = .offsetDateTime ∨ c = .instant) ∧ ∃ t, v = .timestamp t := by
  obtain ⟨⟨t, rfl⟩, rfl | rfl⟩ := hzone
  · exact ⟨rfl, .offsetDateTime, rfl, .inl rfl, t, rfl⟩
  · exact ⟨rfl, .instant, rfl, .inr rfl, t, rfl⟩

/-- A timestamp that needs a zone gets none in a session without one, and only there. -/
theorem decode_of_needsZone {v : Value} (hzone : v.NeedsZone target) :
    (standard geometry).decode session v.tag target v = .error .noTimeZone ↔
      session.timeZone = none := by
  obtain ⟨hnull, c, hfind, hc, t, rfl⟩ := exists_find_of_needsZone geometry hzone
  constructor
  · intro h
    have ho := (standard geometry).decodeOutcome session target (.timestamp t)
    rw [h] at ho
    cases ho with
    | failure _ _ he =>
      cases he with
      | noZone _ hnone => exact hnone
  · intro hnone
    rw [decode_eq_readBy hnull hfind, (Fails.noZone hc hnone).readBy_eq]
    rfl

/-- What a session has to say about conversions is a zone for timestamps that need one. What is
written does not depend on it. What is read depends on it only where a timestamp itself is asked for
with a zone, which then fails for want of a zone if and only if the session has none; all else is
read alike in any two sessions and never fails so, arrays of timestamps not excepted. -/
theorem session_scope (geometry : Bool) (s₁ s₂ : SessionSettings) :
    let r := standard geometry
    (∀ h, r.encodeIn s₁ h = r.encodeIn s₂ h ∧ r.encodeIn s₁ h = r.encode h) ∧
      (∀ v target, ¬ v.NeedsZone target →
        r.decode s₁ v.tag target v = r.decode s₂ v.tag target v ∧
          r.decode s₁ v.tag target v ≠ .error .noTimeZone) ∧
      (∀ items target,
        r.decode s₁ .array target (.array items) = r.decode s₂ .array target (.array items) ∧
          r.decode s₁ .array target (.array items) ≠ .error .noTimeZone) ∧
      ∀ v target, v.NeedsZone target →
        (r.decode s₁ v.tag target v = .error .noTimeZone ↔ s₁.timeZone = none) := by
  intro r
  refine ⟨fun h => ⟨?_, encodeIn_eq h⟩,
    fun v target hzone => ⟨decode_eq_of_not_needsZone v hzone, decode_ne_noTimeZone v hzone⟩,
    fun items target => ?_, fun v target hzone => decode_of_needsZone hzone⟩
  · rw [encodeIn_eq, encodeIn_eq]
  · have hzone := Value.not_needsZone_array items target
    exact ⟨decode_eq_of_not_needsZone (.array items) hzone,
      decode_ne_noTimeZone (.array items) hzone⟩

end Registry

end SqlClient
