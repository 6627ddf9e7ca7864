import SqlClient.Codec.Registry
import SqlClient.Proofs.Codec.Normal
import SqlClient.Proofs.Interval

/-!
# Host values through the registry and back

What the usual registry writes of a host value, it reads back as the normal form of that value; read
as the type that the client used, it is the value again. The codec that reads is found by the tag of
what was written, and need not be the one that wrote.
-/

namespace SqlClient

/-! ### Integers of fewer bits -/

namespace Value

theorem narrow_eq_ok {α : Type} {fit : Int → Option α} {n : Int64} {m : α}
    (h : fit n.toInt = some m) : narrow fit n = .ok m := by
  rw [narrow, h]

theorem getByte_tinyInt (n : Int8) : (tinyInt n).getByte = .ok n := by
  have hlo := n.le_toInt
  have hhi := n.toInt_lt
  refine narrow_eq_ok ?_
  rw [Int8.toInt_toInt64, int8?, if_pos (by omega), Int8.ofInt_toInt]

theorem getShort_smallInt (n : Int16) : (smallInt n).getShort = .ok n := by
  have hlo := n.le_toInt
  have hhi := n.toInt_lt
  refine narrow_eq_ok ?_
  rw [Int16.toInt_toInt64, int16?, if_pos (by omega), Int16.ofInt_toInt]

theorem getInt_integer (n : Int32) : (integer n).getInt = .ok n := by
  have hlo := n.le_toInt
  have hhi := n.toInt_lt
  refine narrow_eq_ok ?_
  rw [Int32.toInt_toInt64, int32?, if_pos (by omega), Int32.ofInt_toInt]

end Value

/-- What is parsed is read. -/
theorem Codec.readJson_of_parse {text : String} {j : Json} (h : Json.parse text = .ok j) :
    readJson (.json text) = .ok j := by
  have hread : readJson (.json text) = (Json.parse text).mapError fun fault =>
      .dataConversion ("Invalid JSON document: " ++ fault) := rfl
  rw [hread, h]
  rfl

theorem Codec.engineResult_eq_ok {α : Type} {wrap : α → Value} {result : Except EngineError α}
    {v : Value} (h : engineResult wrap result = .ok v) : ∃ a, result = .ok a ∧ wrap a = v := by
  cases result with
  | error e => cases h
  | ok a => exact ⟨a, rfl, Except.ok.inj h⟩

/-! ### Priorities -/

namespace Registry

variable {r : Registry} {session : SessionSettings} {tag : TypeTag} {target : HostType}

/-- A value that is not null is read by the first codec that claims it. -/
theorem decode_eq_readBy {v : Value} (hnull : v.isNull = false) {c : Codec}
    (hc : r.codecs.find? (·.canDecode tag target) = some c) :
    r.decode session tag target v = (r.readBy c session v).map some := by
  cases v with
  | null => cases hnull
  | array items =>
    rw [readBy, decode, readWith, hc]
  | _ =>
    rw [decode, readWith, hc, readBy]
    all_goals nofun

theorem decode_of_find {v : Value} (hnull : v.isNull = false) {c : Codec}
    (hc : r.codecs.find? (·.canDecode tag target) = some c) {h : HostValue}
    (hread : r.readBy c session v = .ok h) : r.decode session tag target v = .ok (some h) := by
  rw [decode_eq_readBy hnull hc, hread]
  rfl

/-- A scalar is written by the first codec of its type. -/
theorem encode_of_find {h : HostValue} (hs : h.isScalar = true) {c : Codec}
    (hc : r.codecs.find? (·.canEncode h) = some c) : r.encode h = c.write noItems noInner h := by
  cases h with
  | array _ | parameter _ _ => cases hs
  | _ =>
    rw [encode, writeWith, hc]
    all_goals nofun

theorem readBy_int8 (n : Int8) : r.readBy .int8 session (.tinyInt n) = .ok (.int8 n) :=
  congrArg (Codec.access .int8) (Value.getByte_tinyInt n)

theorem readBy_int16 (n : Int16) : r.readBy .int16 session (.smallInt n) = .ok (.int16 n) :=
  congrArg (Codec.access .int16) (Value.getShort_smallInt n)

theorem readBy_int32 (n : Int32) : r.readBy .int32 session (.integer n) = .ok (.int32 n) :=
  congrArg (Codec.access .int32) (Value.getInt_integer n)

theorem readBy_json {text : String} {j : Json} (h : Json.parse text = .ok j) :
    r.readBy .json session (.json text) = .ok (.json j) :=
  congrArg (Codec.access .json) (Codec.readJson_of_parse h)

variable {geometry : Bool}

theorem find_period (geometry : Bool) {q : Qualifier} (h : q.isYearMonth = true) :
    (standard geometry).codecs.find? (·.canDecode (.interval q) .period) = some .period := by
  cases q with
  | year | month | yearToMonth => rfl
  | _ => cases h

theorem find_array (h : target = .any ∨ target = .array) :
    (standard geometry).codecs.find? (·.canDecode .array target) = some .array := by
  rcases h with rfl | rfl <;> cases geometry <;> rfl

/-- Scalars come back in normal form, and as themselves if their type is asked for. -/
theorem decode_encode_scalar (session : SessionSettings) {h : HostValue}
    (hs : h.isScalar = true) {v : Value} (hv : (standard geometry).encode h = .ok v)
    (hdoc : ∀ j, h.Holds j → Json.parse j.print = .ok j) :
    (standard geometry).decode session v.tag .any v = .ok h.canon ∧
      ∃ r, (standard geometry).decode session v.tag h.type v = .ok r ∧ h.GivenBack r := by
  cases h with
  -- the codec that writes is the first for the tag as well, and no accessor has to convert
  | bool _ | int64 _ | float32 _ | float64 _ | decimal _ | string _ | bytes _ | date _ | time _
  | offsetTime _ | dateTime _ | offsetDateTime _ | uuid _ | interval _ =>
    obtain rfl := Except.ok.inj hv
    exact ⟨rfl, _, rfl, rfl⟩
  | int8 n =>
    obtain rfl := Except.ok.inj hv
    have hread := @readBy_int8 (standard geometry) session n
    exact ⟨decode_of_find rfl rfl hread, _, decode_of_find rfl rfl hread, rfl⟩
  | int16 n =>
    obtain rfl := Except.ok.inj hv
    have hread := @readBy_int16 (standard geometry) session n
    exact ⟨decode_of_find rfl rfl hread, _, decode_of_find rfl rfl hread, rfl⟩
  | int32 n =>
    obtain rfl := Except.ok.inj hv
    have hread := @readBy_int32 (standard geometry) session n
    exact ⟨decode_of_find rfl rfl hread, _, decode_of_find rfl rfl hread, rfl⟩
  | json j =>
    obtain rfl := Except.ok.inj hv
    have hread := @readBy_json (standard geometry) session _ _ (hdoc j .document)
    exact ⟨decode_of_find rfl rfl hread, _, decode_of_find rfl rfl hread, rfl⟩
  | instant t =>
    obtain rfl := Except.ok.inj hv
    have hread : (standard geometry).readBy .instant session (.timestampTz t.atUtc) =
        .ok (.instant t) := congrArg (Except.ok ∘ HostValue.instant) t.toInstant_atUtc
    exact ⟨rfl, _, decode_of_find rfl rfl hread, rfl⟩
  -- without a preference, intervals go to a codec that stands before those of the two lengths
  | period p =>
    obtain ⟨i, hi, rfl⟩ := Codec.engineResult_eq_ok hv
    obtain ⟨q, hq, hmonths⟩ := Period.ofInterval_toInterval hi
    have hread : (standard geometry).readBy .period session (.interval i) = .ok (.period q) :=
      congrArg (Codec.access .period) hq
    have hown := find_period geometry (Period.isYearMonth_toInterval hi)
    refine ⟨?_, _, decode_of_find rfl hown hread, q, rfl, hmonths⟩
    rw [HostValue.canon, hi]
    exact decode_of_find rfl rfl rfl
  | duration d =>
    rw [encode_of_find rfl (c := .duration) rfl, Codec.write] at hv
    obtain ⟨i, hi, rfl⟩ := Codec.engineResult_eq_ok hv
    have hread : (standard geometry).readBy .duration session (.interval i) = .ok (.duration d) :=
      congrArg (Codec.access .duration) (Duration.ofInterval_toInterval hi)
    have hown : (standard geometry).codecs.find? (·.canDecode (.interval i.qualifier) .duration) =
        some .duration := by
      rw [(Duration.toInterval_eq_ok hi).1]
      rfl
    refine ⟨?_, _, decode_of_find rfl hown hread, rfl⟩
    rw [HostValue.canon, hi]
    exact decode_of_find rfl rfl rfl
  | enum name members =>
    obtain ⟨e, he, rfl⟩ := Codec.engineResult_eq_ok hv
    have hcanon : (HostValue.enum name members).canon = some (.enum e.label e.members) := by
      rw [HostValue.canon, he, HostValue.madeOf]
    rw [hcanon]
    exact ⟨rfl, _, rfl, hcanon.symm⟩
  | geometry text =>
    cases geometry with
    | false => cases hv
    | true =>
      obtain rfl := Except.ok.inj hv
      exact ⟨rfl, _, rfl, rfl⟩
  | array _ | parameter _ _ => cases hs

/-! ### Values that hold others -/

theorem encode_array {items : List (Option HostValue)} {v : Value}
    (hv : (standard geometry).encode (.array items) = .ok v) :
    ∃ vs, (standard geometry).encodeItems items = .ok vs ∧ .array vs = v := by
  have hc : (standard geometry).codecs.find? (·.canEncode (.array items)) = some .array := by
    cases geometry <;> rfl
  rw [encode, writeWith, hc] at hv
  cases hvs : (standard geometry).encodeItems items with
  | error e =>
    rw [hvs] at hv
    cases hv
  | ok vs =>
    rw [hvs] at hv
    exact ⟨vs, rfl, Except.ok.inj hv⟩

theorem encode_parameter {type : HostType} {value : Option HostValue} :
    (standard geometry).encode (.parameter type value) =
      (standard geometry).encodeParameter type value := by
  have hc : (standard geometry).codecs.find? (·.canEncode (.parameter type value)) =
      some .parameter := by
    cases geometry <;> rfl
  rw [encode, writeWith, hc]
  rfl

/-- Items come back one by one, each read by its own tag. -/
theorem decodeItems_encodeItems (session : SessionSettings) {items : List (Option HostValue)}
    (ih : ∀ h, some h ∈ items → ∀ v, (standard geometry).encode h = .ok v →
      (standard geometry).decode session v.tag .any v = .ok h.canon) {vs : List Value}
    (hvs : (standard geometry).encodeItems items = .ok vs) :
    (standard geometry).decodeItems session vs = .ok (HostValue.canonItems items) := by
  induction items generalizing vs with
  | nil =>
    rw [encodeItems] at hvs
    obtain rfl : [] = vs := Except.ok.inj hvs
    rfl
  | cons item items ihs =>
    rw [encodeItems] at hvs
    obtain ⟨v, hv, hvs⟩ := bind_eq_ok.mp hvs
    obtain ⟨rest, hrest, hvs⟩ := bind_eq_ok.mp hvs
    obtain rfl : v :: rest = vs := Except.ok.inj hvs
    have hitem : (standard geometry).decode session v.tag .any v =
        .ok (HostValue.canonItem item) := by
      cases item with
      | none =>
        rw [encodeItem] at hv
        obtain rfl := Except.ok.inj hv
        rfl
      | some h =>
        rw [encodeItem] at hv
        exact ih h (List.mem_cons_self ..) v hv
    have hitems := ihs (fun h hmem => ih h (List.mem_cons_of_mem _ hmem)) hrest
    rw [decodeItems, hitem, HostValue.canonItems]
    exact congrArg (Except.map _) hitems

/-- What is written of a host value is read back as its normal form, however deep arrays and
parameters are nested in it; and if the type that it had is asked for, as the value itself, up to
the normal form of arrays and enums and the way in which a period divides its months. -/
theorem decode_encode (geometry : Bool) (session : SessionSettings) (h : HostValue) (v : Value)
    (hv : (standard geometry).encode h = .ok v)
    (hdoc : ∀ j, h.Holds j → Json.parse j.print = .ok j) :
    (standard geometry).decode session v.tag .any v = .ok h.canon ∧
      (h.type ≠ .parameter →
        ∃ r, (standard geometry).decode session v.tag h.type v = .ok r ∧ h.GivenBack r) := by
  induction h using HostValue.nested generalizing v with
  | scalar h hs =>
    obtain ⟨hany, hown⟩ := decode_encode_scalar session hs hv hdoc
    exact ⟨hany, fun _ => hown⟩
  | array items ih =>
    obtain ⟨vs, hvs, rfl⟩ := encode_array hv
    have hitems := decodeItems_encodeItems session
      (fun h hmem v hv => (ih h hmem v hv fun j hj => hdoc j (.item hmem hj)).1) hvs
    have hread : (standard geometry).readBy .array session (.array vs) =
        .ok (.array (HostValue.canonItems items)) := congrArg (Except.map HostValue.array) hitems
    have hcanon : HostValue.canon (.array items) = some (.array (HostValue.canonItems items)) := by
      rw [HostValue.canon]
    rw [hcanon]
    refine ⟨decode_of_find rfl (find_array (.inl rfl)) hread, fun _ => ⟨_, ?_, hcanon.symm⟩⟩
    exact decode_of_find rfl (find_array (.inr rfl)) hread
  | parameter type value ih =>
    refine ⟨?_, fun hne => absurd rfl hne⟩
    rw [encode_parameter] at hv
    cases value with
    | none =>
      rw [encodeParameter, encodeNull] at hv
      split_ifs at hv
      obtain rfl := Except.ok.inj hv
      rfl
    | some h =>
      rw [encodeParameter] at hv
      exact (ih h rfl v hv fun j hj => hdoc j (.value hj)).1

/-- A document, a null, a period and a typed null in an array. -/
theorem decode_encode_nested :
    let h : HostValue := .array [some (.json (.bool true)), none, some (.period ⟨1, -3⟩),
      some (.parameter .int32 none)]
    let v : Value := .array [.json "true", .null, .interval ⟨.yearToMonth, false, 0, 9⟩, .null]
    (standard true).encode h = .ok v ∧
      (standard true).decode ⟨none⟩ v.tag .any v =
        .ok (some (.array [some (.json (.bool true)), none,
          some (.interval ⟨.yearToMonth, false, 0, 9⟩), none])) := by
  intro h v
  have hv : (standard true).encode h = .ok v := rfl
  have hdoc : ∀ j, h.Holds j → Json.parse j.print = .ok j := by
    intro j hj
    dsimp only [h] at hj
    cases hj with
    | item hmem hj =>
      simp only [List.mem_cons, Option.some.injEq, reduceCtorEq, List.not_mem_nil, or_false,
        false_or] at hmem
      rcases hmem with rfl | rfl | rfl
      · cases hj with
        | document => rfl
      · cases hj
      · cases hj
  have hany := (decode_encode true ⟨none⟩ h v hv hdoc).1
  exact ⟨hv, hany⟩

end Registry

end SqlClient
