import SqlClient.Proofs.Codec.RoundTrip
import SqlClient.Proofs.Except
import SqlClient.Proofs.Text.Digits
import SqlClient.Row

/-!
# What reading a value can come to

A value that is read by its own tag is a null, or no codec claims it, or the first codec that claims
it has a value of its own type to give; and where it has none, the reason is one of a few. None of
them is that the codec does not know what to do with the value: it claims nothing that it cannot
take apart.
-/

namespace SqlClient

/-! ### The values that codecs claim -/

/-- The codec claims the value by its tag. -/
inductive Codec.Claims : Codec → Value → Prop
  | decimal (d : Decimal) : Claims .decimal (.numeric d)
  | bool (b : Bool) : Claims .bool (.boolean b)
  | int8 (n : Int8) : Claims .int8 (.tinyInt n)
  | binary (octets : List UInt8) : Claims .bytes (.binary octets)
  | varbinary (octets : List UInt8) : Claims .bytes (.varbinary octets)
  | blob (octets : List UInt8) : Claims .blob (.blob octets)
  | float64 (x : Float) : Claims .float64 (.double x)
  | float32 (x : Float32) : Claims .float32 (.real x)
  | int32 (n : Int32) : Claims .int32 (.integer n)
  | json (text : String) : Claims .json (.json text)
  | date (d : Date) : Claims .date (.date d)
  | dateTime (t : DateTime) : Claims .dateTime (.timestamp t)
  | time (t : Time) : Claims .time (.time t)
  | int64 (n : Int64) : Claims .int64 (.bigInt n)
  | offsetDateTime (t : OffsetDateTime) : Claims .offsetDateTime (.timestampTz t)
  | zonedDateTime (t : DateTime) : Claims .offsetDateTime (.timestamp t)
  | offsetTime (t : OffsetTime) : Claims .offsetTime (.timeTz t)
  | int16 (n : Int16) : Claims .int16 (.smallInt n)
  | char (s : String) : Claims .string (.char s)
  | varchar (s : String) : Claims .string (.varchar s)
  | clob (s : String) : Claims .clob (.clob s)
  | uuid (u : Uuid) : Claims .uuid (.uuid u)
  | instant (t : OffsetDateTime) : Claims .instant (.timestampTz t)
  | zonedInstant (t : DateTime) : Claims .instant (.timestamp t)
  | interval (i : Interval) : Claims .interval (.interval i)
  | period (i : Interval) : i.qualifier.isYearMonth = true → Claims .period (.interval i)
  | duration (i : Interval) : i.qualifier.isYearMonth = false → Claims .duration (.interval i)
  | enum (e : EnumValue) : Claims .enum (.enum e)
  | geometry (text : String) : Claims .geometry (.geometry text)
  | array (items : List Value) : Claims .array (.array items)

theorem Codec.claims_of_reads {c : Codec} {v : Value} (h : c.reads v.tag = true) : c.Claims v := by
  -- a codec that does not read the tag leaves the hypothesis `false = true`
  cases c <;> cases v <;> first
    | (cases h; done)
    | exact .period _ h
    | exact .duration _ (by simpa [reads, Value.tag] using h)
    | constructor

/-- What holds of all other values, and of arrays if it holds of their items, holds of all values.
-/
@[elab_as_elim]
theorem Value.nested {P : Value → Prop} (flat : ∀ v, (∀ items, v ≠ .array items) → P v)
    (array : ∀ items, (∀ v ∈ items, P v) → P (.array items)) (v : Value) : P v := by
  cases v with
  | array items => exact array items fun v hmem => nested flat array v
  | _ => exact flat _ nofun
termination_by sizeOf v
decreasing_by
  have hlt := List.sizeOf_lt_of_mem hmem
  simp only [Value.array.sizeOf_spec]
  omega

/-! ### Why a value has no reading -/

namespace Registry

/-- Why a codec has no reading of a value that it claims. -/
inductive Fails (r : Registry) (session : SessionSettings) : Codec → Value → Error → Prop
  /-- The text is no document. -/
  | document {text fault : String} : Json.parse text = .error fault →
      Fails r session .json (.json text)
        (.engine (.dataConversion ("Invalid JSON document: " ++ fault)))
  /-- A timestamp without a zone has to be placed on the time line, in a session without one. -/
  | noZone {c : Codec} {t : DateTime} : c = .offsetDateTime ∨ c = .instant →
      session.timeZone = none → Fails r session c (.timestamp t) .noTimeZone
  /-- What the clock shows at UTC then is beyond the calendar. -/
  | beyondCalendar {c : Codec} {t : DateTime} {zone : Offset} :
      c = .offsetDateTime ∨ c = .instant → session.timeZone = some zone →
      t.toUtc? zone = none → Fails r session c (.timestamp t) (.engine (.dataConversion
        (t.text ++ " does not exist in time zone " ++ zone.text)))
  /-- A field under a minus does not fit 64 bits. -/
  | field {i : Interval} {field : Int64} : i.negative = true → field ∈ i.periodFields →
      checkedNeg field = none →
      Fails r session .period (.interval i) (.engine (.numericOutOfRange (toString field.toInt)))
  /-- The interval is longer than any duration. -/
  | length {i : Interval} {nanos : Int} : i.toNanos = .ok nanos → maxDurationNanos < nanos.natAbs →
      Fails r session .duration (.interval i) (.engine (.numericOutOfRange (toString nanos)))
  /-- An item has no reading, and all items before it have one. -/
  | item {before after : List Value} {v : Value} {e : Error} :
      (∀ u ∈ before, ∃ h, r.decode session u.tag .any u = .ok h) →
      r.decode session v.tag .any v = .error e →
      Fails r session .array (.array (before ++ v :: after)) e

/-- What reading a value by its own tag comes to. -/
inductive DecodeOutcome (r : Registry) (session : SessionSettings) (target : HostType) :
    Value → Except Error (Option HostValue) → Prop
  | null : DecodeOutcome r session target .null (.ok none)
  | unclaimed {v : Value} : v.isNull = false →
      r.codecs.find? (·.canDecode v.tag target) = none →
      DecodeOutcome r session target v (.error (.cannotDecode v.tag target))
  | value {v : Value} {c : Codec} {h : HostValue} : v.isNull = false →
      r.codecs.find? (·.canDecode v.tag target) = some c → h.type = c.type →
      (∀ e, ¬ r.Fails session c v e) → DecodeOutcome r session target v (.ok (some h))
  | failure {v : Value} {c : Codec} {e : Error} : v.isNull = false →
      r.codecs.find? (·.canDecode v.tag target) = some c → r.Fails session c v e →
      DecodeOutcome r session target v (.error e)

end Registry

/-! ### One codec -/

namespace Codec

variable {session : SessionSettings} {t : DateTime}

theorem readJson_json (text : String) : readJson (.json text) =
    (Json.parse text).mapError fun fault => .dataConversion ("Invalid JSON document: " ++ fault) :=
  rfl

theorem readZoned_of_noZone (h : session.timeZone = none) :
    readZoned session (.timestamp t) = .error .noTimeZone := by
  rw [readZoned, h]

theorem readZoned_of_beyond {zone : Offset} (h : session.timeZone = some zone)
    (hutc : t.toUtc? zone = none) :
    readZoned session (.timestamp t) = .error (.engine (.dataConversion
      (t.text ++ " does not exist in time zone " ++ zone.text))) := by
  have hnone : OffsetDateTime.ofShown? t zone = none := dif_neg (by simp [hutc])
  simp only [readZoned, h, attachZone, hnone]

theorem readZoned_of_zone {zone : Offset} (h : session.timeZone = some zone)
    (hutc : (t.toUtc? zone).isSome = true) :
    readZoned session (.timestamp t) = .ok ⟨t, zone, hutc⟩ := by
  have hsome : OffsetDateTime.ofShown? t zone = some ⟨t, zone, hutc⟩ := dif_pos hutc
  simp only [readZoned, h, attachZone, hsome]

end Codec

namespace Registry

variable {r : Registry} {session : SessionSettings}

theorem decodeItems_eq_mapM (items : List Value) :
    r.decodeItems session items = items.mapM fun v => r.decode session v.tag .any v := by
  induction items with
  | nil => rw [decodeItems]; rfl
  | cons v items ih => rw [decodeItems, List.mapM_cons, ih]

/-- Items fail as the first of them does that fails. -/
theorem decodeItems_eq_error {items : List Value} {e : Error} :
    r.decodeItems session items = .error e ↔ ∃ before v after, items = before ++ v :: after ∧
      (∀ u ∈ before, ∃ h, r.decode session u.tag .any u = .ok h) ∧
      r.decode session v.tag .any v = .error e := by
  rw [decodeItems_eq_mapM, mapM_eq_error]

theorem readBy_offsetDateTime (t : DateTime) : r.readBy .offsetDateTime session (.timestamp t) =
    (Codec.readZoned session (.timestamp t)).map .offsetDateTime := rfl

theorem readBy_instant (t : DateTime) : r.readBy .instant session (.timestamp t) =
    (Codec.readZoned session (.timestamp t)).map fun z => .instant z.toInstant := rfl

/-- A zoned codec has a point of the time line for a timestamp, or a reason to fail. -/
theorem readZoned_cases {c : Codec} (hc : c = .offsetDateTime ∨ c = .instant) (t : DateTime) :
    (∃ z, Codec.readZoned session (.timestamp t) = .ok z) ∨
      ∃ e, r.Fails session c (.timestamp t) e := by
  cases hzone : session.timeZone with
  | none => exact .inr ⟨_, .noZone hc hzone⟩
  | some zone =>
    cases hutc : (t.toUtc? zone).isSome with
    | true => exact .inl ⟨_, Codec.readZoned_of_zone hzone hutc⟩
    | false => exact .inr ⟨_, .beyondCalendar hc hzone (by simpa using hutc)⟩

/-- A reason to fail is what the codec fails with. -/
theorem Fails.readBy_eq {c : Codec} {v : Value} {e : Error} (h : r.Fails session c v e) :
    r.readBy c session v = .error e := by
  cases h with
  | @document text fault h =>
    have hread := Codec.readJson_json text
    rw [h] at hread
    exact congrArg (Codec.access .json) hread
  | noZone hc hzone =>
    rcases hc with rfl | rfl
    · rw [readBy_offsetDateTime, Codec.readZoned_of_noZone hzone]
      rfl
    · rw [readBy_instant, Codec.readZoned_of_noZone hzone]
      rfl
  | beyondCalendar hc hzone hutc =>
    rcases hc with rfl | rfl
    · rw [readBy_offsetDateTime, Codec.readZoned_of_beyond hzone hutc]
      rfl
    · rw [readBy_instant, Codec.readZoned_of_beyond hzone hutc]
      rfl
  | field hneg hmem h =>
    exact congrArg (Codec.access .period) (Period.ofInterval_eq_error hneg hmem h)
  | @length i nanos h hlt =>
    have hnone : Duration.ofNanos? nanos = none := dif_neg (Nat.not_le.mpr hlt)
    have hread := Duration.ofInterval_eq h
    rw [hnone, Option.elim_none] at hread
    exact congrArg (Codec.access .duration) hread
  | item hbefore hv =>
    exact congrArg (Except.map HostValue.array)
      (decodeItems_eq_error.mpr ⟨_, _, _, rfl, hbefore, hv⟩)

/-- A codec has a value of its own type for what it claims, or one of the reasons to fail. -/
theorem readBy_cases {c : Codec} {v : Value} (hc : c.Claims v) :
    (∃ h, r.readBy c session v = .ok h ∧ h.type = c.type) ∨ ∃ e, r.Fails session c v e := by
  cases hc with
  | decimal | bool | binary | varbinary | blob | float64 | float32 | date | dateTime | time | int64
  | offsetDateTime | offsetTime | char | varchar | clob | uuid | instant | interval | enum
  | geometry => exact .inl ⟨_, rfl, rfl⟩
  | int8 n => exact .inl ⟨_, readBy_int8 n, rfl⟩
  | int16 n => exact .inl ⟨_, readBy_int16 n, rfl⟩
  | int32 n => exact .inl ⟨_, readBy_int32 n, rfl⟩
  | json text =>
    cases h : Json.parse text with
    | error fault => exact .inr ⟨_, .document h⟩
    | ok j => exact .inl ⟨_, readBy_json h, rfl⟩
  | zonedDateTime t =>
    rcases readZoned_cases (r := r) (.inl rfl) t with ⟨z, hz⟩ | hfails
    · refine .inl ⟨.offsetDateTime z, ?_, rfl⟩
      rw [readBy_offsetDateTime, hz]
      rfl
    · exact .inr hfails
  | zonedInstant t =>
    rcases readZoned_cases (r := r) (.inr rfl) t with ⟨z, hz⟩ | hfails
    · refine .inl ⟨.instant z.toInstant, ?_, rfl⟩
      rw [readBy_instant, hz]
      rfl
    · exact .inr hfails
  | period i h =>
    rcases Period.ofInterval_cases h with ⟨p, hp⟩ | ⟨hneg, field, hmem, hnone⟩
    · exact .inl ⟨_, congrArg (Codec.access .period) hp, rfl⟩
    · exact .inr ⟨_, .field hneg hmem hnone⟩
  | duration i h =>
    obtain ⟨nanos, hnanos⟩ := Interval.toNanos_eq_ok h
    rcases Nat.lt_or_ge maxDurationNanos nanos.natAbs with hlt | hge
    · exact .inr ⟨_, .length hnanos hlt⟩
    · have hsome : Duration.ofNanos? nanos = some ⟨nanos, hge⟩ := dif_pos hge
      have hread := Duration.ofInterval_eq hnanos
      rw [hsome, Option.elim_some] at hread
      exact .inl ⟨_, congrArg (Codec.access .duration) hread, rfl⟩
  | array items =>
    cases hitems : r.decodeItems session items with
    | error e =>
      obtain ⟨before, v, after, rfl, hbefore, hv⟩ := decodeItems_eq_error.mp hitems
      exact .inr ⟨e, .item hbefore hv⟩
    | ok hs => exact .inl ⟨_, congrArg (Except.map HostValue.array) hitems, rfl⟩

/-! ### The first codec that claims a value -/

variable {target : HostType}

theorem decode_of_unclaimed {v : Value} (hnull : v.isNull = false)
    (hnone : r.codecs.find? (·.canDecode v.tag target) = none) :
    r.decode session v.tag target v = .error (.cannotDecode v.tag target) := by
  cases v with
  | null => cases hnull
  | array items => rw [decode, readWith, hnone]
  | _ =>
    rw [decode, readWith, hnone]
    all_goals simp

theorem claims_of_find {v : Value} {c : Codec}
    (hc : r.codecs.find? (·.canDecode v.tag target) = some c) :
    target.accepts c.type = true ∧ c.Claims v := by
  have hcan : c.canDecode v.tag target = true := by simpa using List.find?_some hc
  rw [Codec.canDecode, Bool.and_eq_true] at hcan
  exact ⟨hcan.1, Codec.claims_of_reads hcan.2⟩

/-- Reading a value by its own tag comes to one of the outcomes. -/
theorem decodeOutcome (r : Registry) (session : SessionSettings) (target : HostType) (v : Value) :
    r.DecodeOutcome session target v (r.decode session v.tag target v) := by
  cases hnull : v.isNull with
  | true =>
    cases v with
    | null =>
      rw [decode]
      exact .null
    | _ => cases hnull
  | false =>
    cases hc : r.codecs.find? (·.canDecode v.tag target) with
    | none =>
      rw [decode_of_unclaimed hnull hc]
      exact .unclaimed hnull hc
    | some c =>
      rw [decode_eq_readBy hnull hc]
      have hcases : (∃ h, r.readBy c session v = .ok h ∧ h.type = c.type) ∨
          ∃ e, r.Fails session c v e := readBy_cases (claims_of_find hc).2
      rcases hcases with ⟨h, hread, htype⟩ | ⟨e, he⟩
      · rw [hread]
        refine .value hnull hc htype fun e he => ?_
        have herror := he.readBy_eq
        rw [hread] at herror
        cases herror
      · rw [he.readBy_eq]
        exact .failure hnull hc he

/-- An error among the outcomes is the one that comes. -/
theorem DecodeOutcome.decode_eq {v : Value} {e : Error}
    (h : r.DecodeOutcome session target v (.error e)) :
    r.decode session v.tag target v = .error e := by
  cases h with
  | unclaimed hnull hnone => exact decode_of_unclaimed hnull hnone
  | failure hnull hc he => rw [decode_eq_readBy hnull hc, he.readBy_eq]; rfl

/-- A value has a type that was asked for, the preferred one where there was no preference. -/
theorem DecodeOutcome.type_of_value {v : Value} {h : HostValue}
    (ho : r.DecodeOutcome session target v (.ok (some h))) :
    target.accepts h.type = true ∧ (target = .any → r.preferredType? v.tag = some h.type) := by
  cases ho with
  | @value _ c _ hnull hc htype _ =>
    rw [htype]
    refine ⟨(claims_of_find hc).1, fun hany => ?_⟩
    subst hany
    have htag : v.tag ≠ .null := by
      cases v with
      | null => cases hnull
      | _ => exact nofun
    rw [preferredType?, if_neg htag, hc]
    rfl

end Registry

/-! ### The fallback of the codecs -/

/-- A date starts with a digit or a sign. -/
theorem Date.text_toList (d : Date) : ∃ c cs,
    d.text.toList = c :: cs ∧ (c.isDigit = true ∨ c = '-' ∨ c = '+') := by
  obtain ⟨c, cs, hyear, hc⟩ := Text.paddedDigits_toList 4 d.year.natAbs
  simp only [text, yearText, String.toList_append, apply_ite String.toList, hyear]
  split_ifs
  · exact ⟨c, _, rfl, .inl hc⟩
  · exact ⟨'-', _, rfl, .inr (.inl rfl)⟩
  · exact ⟨'+', _, rfl, .inr (.inr rfl)⟩

namespace EngineError

variable {tag : TypeTag} {name : String}

theorem dataConversion_ne_noConversion {message : String}
    (h : message.toList.head? ≠ some 'D') : dataConversion message ≠ noConversion tag name := by
  intro heq
  have hmessage : message =
      "Data conversion error converting " ++ tag.display ++ " to " ++ name :=
    congrArg EngineError.message heq
  rw [hmessage] at h
  simp only [String.toList_append] at h
  exact h rfl

theorem numericOutOfRange_ne_noConversion (number : String) :
    numericOutOfRange number ≠ noConversion tag name := by
  intro heq
  have hstate : "22003" = "22018" := congrArg EngineError.sqlState heq
  exact absurd hstate (by decide)

end EngineError

namespace Registry

variable {r : Registry} {session : SessionSettings} {tag : TypeTag} {name : String}

/-- The reasons to fail that do not come from an item are none of them the fallback. -/
theorem Fails.ne_noConversion {c : Codec} {v : Value} {e : Error} (h : r.Fails session c v e)
    (hitems : ∀ items, v = .array items → ∀ u ∈ items, ∀ target,
      r.decode session u.tag target u ≠ .error (.engine (.noConversion tag name))) :
    e ≠ .engine (.noConversion tag name) := by
  cases h with
  | document =>
    refine fun heq => EngineError.dataConversion_ne_noConversion ?_ (Error.engine.inj heq)
    rw [String.toList_append]
    exact nofun
  | noZone => exact nofun
  | @beyondCalendar c t zone =>
    refine fun heq => EngineError.dataConversion_ne_noConversion ?_ (Error.engine.inj heq)
    obtain ⟨c, cs, hdate, hc⟩ := t.date.text_toList
    simp only [DateTime.text, String.toList_append, hdate, List.cons_append, List.head?_cons,
      ne_eq, Option.some.injEq]
    rintro rfl
    rcases hc with hc | hc | hc <;> exact absurd hc (by decide)
  | field => exact fun heq => EngineError.numericOutOfRange_ne_noConversion _ (Error.engine.inj heq)
  | length =>
    exact fun heq => EngineError.numericOutOfRange_ne_noConversion _ (Error.engine.inj heq)
  | @item before after u e _ hu =>
    rintro rfl
    exact hitems _ rfl u (by simp) .any hu

/-- No codec is given a value that it does not take apart. -/
theorem decode_ne_noConversion (v : Value) (target : HostType) :
    r.decode session v.tag target v ≠ .error (.engine (.noConversion tag name)) := by
  induction v using Value.nested generalizing target with
  | flat v hflat =>
    intro h
    have ho := r.decodeOutcome session target v
    rw [h] at ho
    cases ho with
    | failure _ _ he =>
      exact he.ne_noConversion (fun items hv => absurd hv (hflat items)) rfl
  | array items ih =>
    intro h
    have ho := r.decodeOutcome session target (.array items)
    rw [h] at ho
    cases ho with
    | failure _ _ he =>
      refine he.ne_noConversion (fun items' hv u hu => ?_) rfl
      rw [← Value.array.inj hv] at hu
      exact ih u hu

end Registry

/-! ### Rows -/

/-- A typed reading of a row takes over what the codecs give, which is of the type asked for. -/
theorem Row.get_scalar (row : Row) (index : Nat) {type : HostType} (htype : type ≠ .any) :
    row.get (.scalar type) index = row.decode index type := by
  rw [get, show Wanted.type (.scalar type) = type from rfl]
  cases hd : row.decode index type with
  | error e => rfl
  | ok o =>
    cases o with
    | none => rfl
    | some h =>
      rw [decode] at hd
      cases hv : row.native index with
      | error e =>
        rw [hv] at hd
        cases hd
      | ok v =>
        rw [hv] at hd
        have ho := row.conversions.registry.decodeOutcome row.conversions.session type v
        rw [show row.conversions.registry.decode row.conversions.session v.tag type v =
          .ok (some h) from hd] at ho
        have haccepts := ho.type_of_value.1
        have hsame : h.type = type := by
          rw [HostType.accepts, Bool.or_eq_true] at haccepts
          rcases haccepts with hany | hsame
          · exact absurd (eq_of_beq hany) htype
          · exact (eq_of_beq hsame).symm
        simp [bind, Except.bind, HostValue.extract, hsame, pure, Except.pure]

namespace Registry

/-- Reading a value by its own tag comes to one of the outcomes, and an error among them is the one
that comes. What is read has a type that was asked for, the preferred one where there was no
preference, so that a typed reading of a row refuses nothing that was read; and no codec meets a
value that it does not take apart. -/
theorem decode_outcomes (r : Registry) (session : SessionSettings) (target : HostType) (v : Value) :
    let result := r.decode session v.tag target v
    r.DecodeOutcome session target v result ∧
      (∀ e, r.DecodeOutcome session target v (.error e) → result = .error e) ∧
      (∀ h, result = .ok (some h) → target.accepts h.type = true ∧
        (target = .any → r.preferredType? v.tag = some h.type)) ∧
      (∀ tag name, result ≠ .error (.engine (.noConversion tag name))) ∧
      ∀ row : Row, row.conversions = ⟨r, session⟩ → ∀ index, row.native index = .ok v →
        target ≠ .any → row.get (.scalar target) index = result := by
  intro result
  have ho := r.decodeOutcome session target v
  refine ⟨ho, fun e he => he.decode_eq, fun h hresult => ?_,
    fun tag name => decode_ne_noConversion v target, ?_⟩
  · rw [show r.decode session v.tag target v = .ok (some h) from hresult] at ho
    exact ho.type_of_value
  · intro row hrow index hv htype
    rw [row.get_scalar index htype, Row.decode, hv, hrow]
    rfl

/-- An array fails as its leftmost failing item does, here an array with a text that is no document,
and a row fails with it. -/
theorem decode_outcomes_nested :
    let v : Value := .array [.integer 1, .array [.null, .json "[", .null], .json "]"]
    let fault : Error := .engine (.dataConversion
      "Invalid JSON document: EOF while parsing a list at line 1 column 1")
    let row : Row := ⟨[.null, v], .ofColumns (standard false) [], ⟨standard false, ⟨none⟩⟩⟩
    (standard false).decode ⟨none⟩ v.tag .array v = .error fault ∧
      (standard false).DecodeOutcome ⟨none⟩ .array v (.error fault) ∧
      row.get (.scalar .array) 1 = .error fault := by
  intro v fault row
  have hdecode : (standard false).decode ⟨none⟩ v.tag .array v = .error fault := rfl
  obtain ⟨houtcome, -, -, -, hrow⟩ := decode_outcomes (standard false) ⟨none⟩ .array v
  have hget := hrow row rfl 1 rfl (by decide)
  rw [hdecode] at houtcome hget
  exact ⟨hdecode, houtcome, hget⟩

end Registry

end SqlClient
