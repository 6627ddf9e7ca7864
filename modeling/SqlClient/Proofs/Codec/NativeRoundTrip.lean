import SqlClient.Proofs.Codec.Outcome
import SqlClient.Proofs.EnumValue

/-!
# Engine values through the registry and back

What the usual registry reads of an engine value without a preference it writes as the normal form
of that value. The codec that writes is found by the type of what was read, and need not be the one
that read: character values and octets come back in the type that strings and octets are written in.
-/

namespace SqlClient

/-! ### Normal engine values -/

namespace Value

/-- The compact print of the document that a text is; a text that is none stays. -/
def compact (text : String) : String :=
  match Json.parse text with
  | .ok j => j.print
  | .error _ => text

mutual

/-- The normal form of a value: characters and octets are of varying length, and documents are
printed without blanks. -/
def norm : Value → Value
  | .char s | .clob s => .varchar s
  | .binary octets | .blob octets => .varbinary octets
  | .json text => .json (compact text)
  | .array items => .array (normItems items)
  | v => v

/-- The normal forms of items. -/
def normItems : List Value → List Value
  | [] => []
  | v :: vs => v.norm :: normItems vs

end

/-- An enum value in a value, however deep. -/
inductive Holds (e : EnumValue) : Value → Prop
  | enum : Holds e (.enum e)
  | item {items : List Value} {v : Value} : v ∈ items → Holds e v → Holds e (.array items)

end Value

/-- The member is the one that some label stands for, and no later one of the same spelling. -/
def EnumValue.Resolved (e : EnumValue) : Prop :=
  ∃ name, resolve e.members name = .ok e

theorem EnumValue.Resolved.resolve_label {e : EnumValue} (h : e.Resolved) :
    resolve e.members e.label = .ok e := by
  obtain ⟨name, hname⟩ := h
  exact EnumValue.resolve_label hname

namespace Registry

variable {geometry : Bool} {session : SessionSettings}

/-! ### Values that hold no others -/

/-- A value that was read is what the first codec that claims it reads. -/
theorem readBy_of_decode {r : Registry} {tag : TypeTag} {target : HostType} {v : Value}
    (hnull : v.isNull = false) {c : Codec}
    (hc : r.codecs.find? (·.canDecode tag target) = some c) {h : HostValue}
    (hv : r.decode session tag target v = .ok (some h)) : r.readBy c session v = .ok h := by
  rw [decode_eq_readBy hnull hc] at hv
  cases hread : r.readBy c session v with
  | error e =>
    rw [hread] at hv
    cases hv
  | ok h' =>
    rw [hread] at hv
    rw [Option.some.inj (Except.ok.inj hv)]

theorem encode_enum {name : String} {members : List String} {e : EnumValue}
    (h : EnumValue.resolve members name = .ok e) :
    (standard geometry).encode (.enum name members) = .ok (.enum e) := by
  have hwrite : (standard geometry).encode (.enum name members) =
      Codec.engineResult .enum (EnumValue.resolve members name) := rfl
  rw [hwrite, h]
  rfl

theorem encode_decode_flat {v : Value} (hflat : ∀ items, v ≠ .array items)
    (henum : ∀ e, v.Holds e → e.Resolved) {h : HostValue}
    (hv : (standard geometry).decode session v.tag .any v = .ok (some h)) :
    (standard geometry).encode h = .ok v.norm := by
  cases v with
  -- the codec that reads is the first to write what it reads, and no accessor has to convert
  | boolean _ | bigInt _ | real _ | double _ | numeric _ | varchar _ | varbinary _ | date _ | time _
  | timeTz _ | timestamp _ | timestampTz _ | interval _ | uuid _ =>
    obtain rfl := Option.some.inj (Except.ok.inj hv)
    rfl
  -- characters and octets of all types are written as one
  | char _ | clob _ | binary _ | blob _ =>
    obtain rfl := Option.some.inj (Except.ok.inj hv)
    rfl
  | tinyInt n =>
    have hread := readBy_of_decode rfl (c := .int8) rfl hv
    obtain rfl := Except.ok.inj ((readBy_int8 n).symm.trans hread)
    rfl
  | smallInt n =>
    have hread := readBy_of_decode rfl (c := .int16) rfl hv
    obtain rfl := Except.ok.inj ((readBy_int16 n).symm.trans hread)
    rfl
  | integer n =>
    have hread := readBy_of_decode rfl (c := .int32) rfl hv
    obtain rfl := Except.ok.inj ((readBy_int32 n).symm.trans hread)
    rfl
  | json text =>
    have hread := readBy_of_decode rfl (c := .json) rfl hv
    cases hparse : Json.parse text with
    | error fault =>
      rw [(Fails.document hparse).readBy_eq] at hread
      cases hread
    | ok j =>
      obtain rfl := Except.ok.inj ((readBy_json hparse).symm.trans hread)
      rw [Value.norm, Value.compact, hparse]
      rfl
  | enum e =>
    obtain rfl := Option.some.inj (Except.ok.inj hv)
    exact encode_enum (henum e .enum).resolve_label
  | geometry text =>
    cases geometry with
    | false => cases hv
    | true =>
      obtain rfl := Option.some.inj (Except.ok.inj hv)
      rfl
  | null => cases hv
  | array items => exact absurd rfl (hflat items)

/-! ### Arrays -/

theorem encode_array_of_items {items : List (Option HostValue)} {vs : List Value}
    (h : (standard geometry).encodeItems items = .ok vs) :
    (standard geometry).encode (.array items) = .ok (.array vs) := by
  have hc : (standard geometry).codecs.find? (·.canEncode (.array items)) = some .array := by
    cases geometry <;> rfl
  rw [encode, writeWith, hc]
  exact congrArg (Except.map Value.array) h

theorem items_of_decode_array {items : List Value} {h : HostValue}
    (hv : (standard geometry).decode session .array .any (.array items) = .ok (some h)) :
    ∃ hs, (standard geometry).decodeItems session items = .ok hs ∧ h = .array hs := by
  have hread := readBy_of_decode rfl (find_array (.inl rfl)) hv
  have hown : (standard geometry).readBy .array session (.array items) =
      ((standard geometry).decodeItems session items).map .array := rfl
  rw [hown] at hread
  cases hitems : (standard geometry).decodeItems session items with
  | error e =>
    rw [hitems] at hread
    cases hread
  | ok hs =>
    rw [hitems] at hread
    exact ⟨hs, rfl, (Except.ok.inj hread).symm⟩

/-- Nothing but a null is read as nothing. -/
theorem eq_null_of_decode {r : Registry} {target : HostType} {v : Value}
    (hv : r.decode session v.tag target v = .ok none) : v = .null := by
  have ho := r.decodeOutcome session target v
  rw [hv] at ho
  cases ho with
  | null => rfl

/-- Items come back one by one, and nulls as nulls. -/
theorem encodeItems_decodeItems {items : List Value}
    (ih : ∀ v ∈ items, ∀ h, (standard geometry).decode session v.tag .any v = .ok (some h) →
      (standard geometry).encode h = .ok v.norm) {hs : List (Option HostValue)}
    (hitems : (standard geometry).decodeItems session items = .ok hs) :
    (standard geometry).encodeItems hs = .ok (Value.normItems items) := by
  induction items generalizing hs with
  | nil =>
    rw [decodeItems] at hitems
    obtain rfl : [] = hs := Except.ok.inj hitems
    rfl
  | cons v items ihs =>
    rw [decodeItems] at hitems
    obtain ⟨item, hv, hitems⟩ := bind_eq_ok.mp hitems
    obtain ⟨rest, hrest, hitems⟩ := bind_eq_ok.mp hitems
    obtain rfl : item :: rest = hs := Except.ok.inj hitems
    have hitem : (standard geometry).encodeItem item = .ok v.norm := by
      cases item with
      | none =>
        rw [eq_null_of_decode hv]
        rfl
      | some h =>
        rw [encodeItem]
        exact ih v List.mem_cons_self h hv
    have hlater := ihs (fun v hmem => ih v (List.mem_cons_of_mem _ hmem)) hrest
    rw [encodeItems, hitem, Value.normItems]
    exact congrArg (Except.map _) hlater

/-- What is read of an engine value without a preference is written as the normal form of the value,
however deep arrays are nested in it, as long as its enum values are those that labels stand for. -/
theorem encode_decode (geometry : Bool) (session : SessionSettings) (v : Value) (h : HostValue)
    (hv : (standard geometry).decode session v.tag .any v = .ok (some h))
    (henum : ∀ e, v.Holds e → e.Resolved) : (standard geometry).encode h = .ok v.norm := by
  induction v using Value.nested generalizing h with
  | flat v hflat => exact encode_decode_flat hflat henum hv
  | array items ih =>
    obtain ⟨hs, hitems, rfl⟩ := items_of_decode_array hv
    rw [Value.norm]
    refine encode_array_of_items (encodeItems_decodeItems (fun v hmem h hv => ?_) hitems)
    exact ih v hmem h hv fun e he => henum e (.item hmem he)

/-- Characters, a null, a document with blanks and the second of two members that differ in case
alone, in arrays. -/
theorem encode_decode_nested :
    let e : EnumValue := ⟨["A", "a"], 1, by decide⟩
    let v : Value := .array [.char "x", .null, .array [.json "[ 1 ]", .enum e], .blob [0]]
    let h : HostValue := .array [some (.string "x"), none,
      some (.array [some (.json (.array [.number (.natural 1)])), some (.enum "a" ["A", "a"])]),
      some (.bytes [0])]
    (standard false).decode ⟨none⟩ v.tag .any v = .ok (some h) ∧ (∀ e, v.Holds e → e.Resolved) ∧
      (standard false).encode h =
        .ok (.array [.varchar "x", .null, .array [.json "[1]", .enum e], .varbinary [0]]) := by
  intro e v h
  have hv : (standard false).decode ⟨none⟩ v.tag .any v = .ok (some h) := rfl
  have henum : ∀ e, v.Holds e → e.Resolved := by
    intro f hf
    have hresolved : e.Resolved := ⟨"a", rfl⟩
    dsimp only [v] at hf
    cases hf with
    | item hmem hf =>
      simp only [List.mem_cons, List.not_mem_nil, or_false] at hmem
      rcases hmem with rfl | rfl | rfl | rfl
      · cases hf
      · cases hf
      · cases hf with
        | item hmem hf =>
          simp only [List.mem_cons, List.not_mem_nil, or_false] at hmem
          rcases hmem with rfl | rfl
          · cases hf
          · cases hf
            exact hresolved
      · cases hf
  exact ⟨hv, henum, encode_decode false ⟨none⟩ v h hv henum⟩

end Registry

end SqlClient
