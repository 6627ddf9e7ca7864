import Mathlib.Logic.Function.Iterate
import SqlClient.Proofs.Codec.Outcome

/-!
# Passes through a registry

Arrays and parameters send a registry through its codecs once more for what they hold. Here this is
left open: one pass converts a value, given some way to convert what the value holds. However a
value is nested and whatever the order of the codecs, after finitely many passes that way is not
asked any more, so conversions come to an end.
-/

namespace SqlClient.Registry

variable {r : Registry} {session : SessionSettings}

/-! ### Writing -/

/-- An item of an array, written by `rest` unless it is missing. -/
def passItem (rest : HostValue → Except Error Value) : Option HostValue → Except Error Value
  | none => .ok .null
  | some h => rest h

/-- What a parameter holds, written by `rest`, or a null of its type. -/
def passInner (r : Registry) (rest : HostValue → Except Error Value) (type : HostType) :
    Option HostValue → Except Error Value
  | none => r.encodeNull type
  | some h => rest h

/-- One pass of a host value through the registry. What it holds is left to `rest`. -/
def encodePass (r : Registry) (rest : HostValue → Except Error Value) :
    HostValue → Except Error Value
  | .array items => r.writeWith (fun _ => items.mapM (passItem rest)) noInner (.array items)
  | .parameter type value =>
    r.writeWith noItems (fun _ => r.passInner rest type value) (.parameter type value)
  | h => r.writeWith noItems noInner h

theorem mapM_passItem {rest : HostValue → Except Error Value} {items : List (Option HostValue)}
    (hrest : ∀ h, some h ∈ items → rest h = r.encode h) :
    items.mapM (passItem rest) = r.encodeItems items := by
  induction items with
  | nil =>
    rw [encodeItems]
    rfl
  | cons item items ih =>
    have hitem : passItem rest item = r.encodeItem item := by
      cases item with
      | none =>
        rw [encodeItem]
        rfl
      | some h =>
        rw [encodeItem]
        exact hrest h List.mem_cons_self
    rw [List.mapM_cons, encodeItems, hitem, ih fun h hmem => hrest h (List.mem_cons_of_mem _ hmem)]

theorem passInner_eq {rest : HostValue → Except Error Value} {type : HostType}
    {value : Option HostValue} (hrest : ∀ h, value = some h → rest h = r.encode h) :
    r.passInner rest type value = r.encodeParameter type value := by
  cases value with
  | none =>
    rw [encodeParameter]
    rfl
  | some h =>
    rw [encodeParameter]
    exact hrest h rfl

/-- A pass that has what a value holds written as the registry writes it writes the value so. -/
theorem encodePass_eq {rest : HostValue → Except Error Value} {h : HostValue}
    (hitems : ∀ items, h = .array items → ∀ i, some i ∈ items → rest i = r.encode i)
    (hvalue : ∀ type value, h = .parameter type value →
      ∀ i, value = some i → rest i = r.encode i) : r.encodePass rest h = r.encode h := by
  cases h with
  | array items => rw [encodePass, encode, mapM_passItem (hitems items rfl)]
  | parameter type value => rw [encodePass, encode, passInner_eq (hvalue type value rfl)]
  | _ =>
    rw [encodePass, encode]
    all_goals simp

/-- A value is written after finitely many passes, whatever is done where they end: by then nothing
is left to write. -/
theorem iterate_encodePass (rest : HostValue → Except Error Value) {h : HostValue} {n : Nat}
    (hn : sizeOf h < n) : (r.encodePass)^[n] rest h = r.encode h := by
  induction h using HostValue.nested generalizing n with
  | scalar h hs =>
    obtain ⟨m, rfl⟩ := Nat.exists_eq_add_of_lt hn
    rw [Function.iterate_succ_apply']
    refine encodePass_eq ?_ ?_
    · rintro items rfl
      cases hs
    · rintro type value rfl
      cases hs
  | array items ih =>
    obtain ⟨m, rfl⟩ := Nat.exists_eq_add_of_lt hn
    rw [Function.iterate_succ_apply']
    refine encodePass_eq ?_ nofun
    rintro _ ⟨⟩ i hmem
    refine ih i hmem ?_
    have hlt := List.sizeOf_lt_of_mem hmem
    simp only [Option.some.sizeOf_spec, HostValue.array.sizeOf_spec] at hlt ⊢
    omega
  | parameter type value ih =>
    obtain ⟨m, rfl⟩ := Nat.exists_eq_add_of_lt hn
    rw [Function.iterate_succ_apply']
    refine encodePass_eq nofun ?_
    rintro _ _ ⟨⟩ i rfl
    refine ih i rfl ?_
    simp only [Option.some.sizeOf_spec, HostValue.parameter.sizeOf_spec]
    omega

/-- There is one way to write values that a pass leaves as it is. -/
theorem encode_unique {f : HostValue → Except Error Value} (hf : r.encodePass f = f) :
    f = r.encode := by
  funext h
  rw [← iterate_encodePass f (Nat.lt_succ_self (sizeOf h)), Function.iterate_fixed hf]

/-! ### Reading -/

/-- One pass of an engine value through the registry. The items of an array are left to `rest`. -/
def decodePass (r : Registry) (session : SessionSettings)
    (rest : TypeTag → HostType → Value → Except Error (Option HostValue)) (tag : TypeTag)
    (target : HostType) : Value → Except Error (Option HostValue)
  | .null => .ok none
  | .array items =>
    r.readWith session tag target (fun _ => items.mapM fun v => rest v.tag .any v) (.array items)
  | v => r.readWith session tag target (fun _ => .ok []) v

theorem mapM_pass {rest : TypeTag → HostType → Value → Except Error (Option HostValue)}
    {items : List Value}
    (hrest : ∀ v ∈ items, rest v.tag .any v = r.decode session v.tag .any v) :
    (items.mapM fun v => rest v.tag .any v) = r.decodeItems session items := by
  induction items with
  | nil =>
    rw [decodeItems]
    rfl
  | cons v items ih =>
    rw [List.mapM_cons, decodeItems, hrest v List.mem_cons_self,
      ih fun v hmem => hrest v (List.mem_cons_of_mem _ hmem)]

/-- A value is read after finitely many passes, whatever is done where they end. -/
theorem iterate_decodePass (rest : TypeTag → HostType → Value → Except Error (Option HostValue))
    {tag : TypeTag} {target : HostType} {v : Value} {n : Nat} (hn : sizeOf v < n) :
    (r.decodePass session)^[n] rest tag target v = r.decode session tag target v := by
  induction v using Value.nested generalizing n tag target with
  | flat v hflat =>
    obtain ⟨m, rfl⟩ := Nat.exists_eq_add_of_lt hn
    rw [Function.iterate_succ_apply']
    cases v with
    | array items => exact absurd rfl (hflat items)
    | null => rw [decodePass, decode]
    | _ =>
      rw [decodePass, decode]
      all_goals simp
  | array items ih =>
    obtain ⟨m, rfl⟩ := Nat.exists_eq_add_of_lt hn
    rw [Function.iterate_succ_apply', decodePass, decode, mapM_pass]
    intro v hmem
    refine ih v hmem ?_
    have hlt := List.sizeOf_lt_of_mem hmem
    simp only [Value.array.sizeOf_spec]
    omega

end SqlClient.Registry
