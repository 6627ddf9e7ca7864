import SqlClient.Proofs.Codec.Passes

/-!
# Which order of codecs counts

Most codecs claim values that no other codec claims, so it does not matter where they stand in a
registry. The few that compete come in four groups, and only the order inside these groups counts.
-/

namespace SqlClient

namespace Codec

/-- The codecs that compete: for some tag or some host type more than one of a group has a claim. -/
def contested : List (List Codec) :=
  [[.string, .clob], [.bytes, .blob], [.dateTime, .offsetDateTime, .instant],
    [.interval, .period, .duration]]

/-- The codecs that a codec competes with, itself among them. -/
def rivals (c : Codec) : List Codec := (contested.find? (c ∈ ·)).getD [c]

theorem mem_standard (c : Codec) : c ∈ (Registry.standard true).codecs := by
  cases c <;> decide

/-- Codecs that read values of one tag are rivals. -/
theorem mem_rivals_of_reads {c d : Codec} {tag : TypeTag} (hc : c.reads tag = true)
    (hd : d.reads tag = true) : d ∈ c.rivals := by
  have htable : ∀ tag ∈ TypeTag.all, ∀ c ∈ (Registry.standard true).codecs, c.reads tag = true →
      ∀ d ∈ (Registry.standard true).codecs, d.reads tag = true → d ∈ c.rivals := by
    decide +kernel
  exact htable tag (TypeTag.mem_all tag) c c.mem_standard hc d d.mem_standard hd

/-- Codecs of one host type are rivals. -/
theorem mem_rivals_of_type {c d : Codec} (h : c.type = d.type) : d ∈ c.rivals := by
  have htable : ∀ c ∈ (Registry.standard true).codecs, ∀ d ∈ (Registry.standard true).codecs,
      c.type = d.type → d ∈ c.rivals := by
    decide +kernel
  exact htable c c.mem_standard d d.mem_standard h

end Codec

namespace Registry

/-- The same codecs, rivals in the same order. -/
structure SameOrder (r₁ r₂ : Registry) : Prop where
  perm : r₁.codecs.Perm r₂.codecs
  order : ∀ rivals ∈ Codec.contested,
    r₁.codecs.filter (· ∈ rivals) = r₂.codecs.filter (· ∈ rivals)

variable {r₁ r₂ : Registry}

theorem SameOrder.filter_rivals (h : r₁.SameOrder r₂) (c : Codec) :
    r₁.codecs.filter (· ∈ c.rivals) = r₂.codecs.filter (· ∈ c.rivals) := by
  rw [Codec.rivals]
  cases hgroup : Codec.contested.find? (c ∈ ·) with
  | some rivals => exact h.order rivals (List.mem_of_find?_eq_some hgroup)
  | none =>
    -- without rivals there is one order: some copies of the codec
    have hcopies : r₂.codecs.filter (· ∈ [c]) =
        List.replicate (r₂.codecs.filter (· ∈ [c])).length c :=
      List.eq_replicate_of_mem fun d hd => by simpa using (List.mem_filter.mp hd).2
    have hperm := h.perm.filter (· ∈ [c])
    rw [hcopies] at hperm
    rw [Option.getD_none, List.perm_replicate.mp hperm, ← hcopies]

/-- A claim that only rivals compete for goes to the same codec. -/
theorem SameOrder.find?_eq (h : r₁.SameOrder r₂) {claims : Codec → Bool}
    (hclaims : ∀ c d, claims c = true → claims d = true → d ∈ c.rivals) :
    r₁.codecs.find? claims = r₂.codecs.find? claims := by
  cases hfind : r₁.codecs.find? claims with
  | none =>
    rw [List.find?_eq_none] at hfind
    exact (List.find?_eq_none.mpr fun c hmem => hfind c (h.perm.mem_iff.mpr hmem)).symm
  | some c =>
    have hc : claims c = true := List.find?_some hfind
    have hfilter : ∀ l : List Codec, l.find? claims = (l.filter (· ∈ c.rivals)).find? claims := by
      intro l
      rw [List.find?_filter]
      congr 1
      funext d
      cases hd : claims d with
      | false => simp
      | true => simp [hclaims c d hc hd]
    rw [← hfind, hfilter, hfilter r₂.codecs, h.filter_rivals]

theorem SameOrder.find?_canDecode (h : r₁.SameOrder r₂) (tag : TypeTag) (target : HostType) :
    r₁.codecs.find? (·.canDecode tag target) = r₂.codecs.find? (·.canDecode tag target) := by
  refine h.find?_eq fun c d hc hd => ?_
  rw [Codec.canDecode, Bool.and_eq_true] at hc hd
  exact Codec.mem_rivals_of_reads hc.2 hd.2

theorem SameOrder.find?_canEncode (h : r₁.SameOrder r₂) (v : HostValue) :
    r₁.codecs.find? (·.canEncode v) = r₂.codecs.find? (·.canEncode v) := by
  refine h.find?_eq fun c d hc hd => ?_
  rw [Codec.canEncode, beq_iff_eq] at hc hd
  exact Codec.mem_rivals_of_type (hc.symm.trans hd)

theorem SameOrder.encodeNull_eq (h : r₁.SameOrder r₂) (target : HostType) :
    r₁.encodeNull target = r₂.encodeNull target := by
  rw [encodeNull, encodeNull, h.perm.any_eq]

theorem SameOrder.preferredType?_eq (h : r₁.SameOrder r₂) (tag : TypeTag) :
    r₁.preferredType? tag = r₂.preferredType? tag := by
  rw [preferredType?, preferredType?, h.find?_canDecode]

/-! ### The same passes -/

theorem SameOrder.encodePass_eq (h : r₁.SameOrder r₂) : r₁.encodePass = r₂.encodePass := by
  funext rest v
  cases v with
  | array items => simp only [encodePass, writeWith, h.find?_canEncode]
  | parameter type value =>
    have hinner : r₁.passInner rest type value = r₂.passInner rest type value := by
      cases value with
      | none => exact h.encodeNull_eq type
      | some v => rfl
    simp only [encodePass, writeWith, h.find?_canEncode, hinner]
  | _ => simp only [encodePass, writeWith, h.find?_canEncode]

theorem SameOrder.decodePass_eq (h : r₁.SameOrder r₂) (session : SessionSettings) :
    r₁.decodePass session = r₂.decodePass session := by
  funext rest tag target v
  cases v <;> simp only [decodePass, readWith, h.find?_canDecode]

/-- Arrays and parameters have no rivals: their codecs may stand anywhere, even in front of all
others. -/
theorem SameOrder.of_composites (hperm : r₁.codecs.Perm r₂.codecs)
    (hscalar : r₁.codecs.filter (· ∉ compositeCodecs) =
      r₂.codecs.filter (· ∉ compositeCodecs)) : r₁.SameOrder r₂ where
  perm := hperm
  order := by
    intro rivals hrivals
    have hapart : ∀ rivals ∈ Codec.contested, ∀ c ∈ rivals, c ∉ compositeCodecs := by decide
    have hfilter : ∀ l : List Codec, l.filter (· ∈ rivals) =
        (l.filter (· ∉ compositeCodecs)).filter (· ∈ rivals) := by
      intro l
      rw [List.filter_filter]
      refine List.filter_congr fun c _ => ?_
      by_cases hc : c ∈ rivals
      · simp [hc, hapart rivals hrivals c hc]
      · simp [hc]
    rw [hfilter, hfilter r₂.codecs, hscalar]

/-- Two registries of the same codecs, rivals in the same order, convert everything alike: they
write the same values and nulls, read every value alike by whatever tag and target, with the same
errors, and prefer the same types. In both a conversion ends after finitely many passes. -/
theorem order_of_rivals (r₁ r₂ : Registry) (h : r₁.SameOrder r₂) :
    (∀ v, r₁.encode v = r₂.encode v) ∧
      (∀ target, r₁.encodeNull target = r₂.encodeNull target) ∧
      (∀ session tag target v,
        r₁.decode session tag target v = r₂.decode session tag target v) ∧
      (∀ tag, r₁.preferredType? tag = r₂.preferredType? tag) ∧
      (∀ v, ∃ n, ∀ rest,
        (r₁.encodePass)^[n] rest v = r₁.encode v ∧ (r₂.encodePass)^[n] rest v = r₂.encode v) ∧
      ∀ session tag target v, ∃ n, ∀ rest,
        (r₁.decodePass session)^[n] rest tag target v = r₁.decode session tag target v ∧
          (r₂.decodePass session)^[n] rest tag target v = r₂.decode session tag target v := by
  have hencode : ∀ (r : Registry) v rest, (r.encodePass)^[sizeOf v + 1] rest v = r.encode v :=
    fun r v rest => iterate_encodePass rest (Nat.lt_succ_self _)
  have hdecode : ∀ (r : Registry) session tag target v rest,
      (r.decodePass session)^[sizeOf v + 1] rest tag target v = r.decode session tag target v :=
    fun r session tag target v rest => iterate_decodePass rest (Nat.lt_succ_self _)
  refine ⟨fun v => ?_, h.encodeNull_eq, fun session tag target v => ?_, h.preferredType?_eq,
    fun v => ⟨_, fun rest => ⟨hencode r₁ v rest, hencode r₂ v rest⟩⟩,
    fun session tag target v => ⟨_, fun rest =>
      ⟨hdecode r₁ session tag target v rest, hdecode r₂ session tag target v rest⟩⟩⟩
  · rw [← hencode r₁ v r₁.encode, ← hencode r₂ v r₁.encode, h.encodePass_eq]
  · rw [← hdecode r₁ session tag target v (r₁.decode session),
      ← hdecode r₂ session tag target v (r₁.decode session), h.decodePass_eq]

/-- The usual registry with its codecs of arrays and parameters in front. -/
theorem order_of_rivals_of_front :
    let r : Registry := ⟨.parameter :: .array :: (scalarCodecs ++ [.geometry])⟩
    (standard true).SameOrder r ∧ (∀ v, (standard true).encode v = r.encode v) ∧
      ∀ session tag target v,
        (standard true).decode session tag target v = r.decode session tag target v := by
  intro r
  have horder : (standard true).SameOrder r := .of_composites (by decide) rfl
  obtain ⟨hencode, -, hdecode, -⟩ := order_of_rivals (standard true) r horder
  exact ⟨horder, hencode, hdecode⟩

/-- Among rivals the order does count. -/
example : (⟨[.clob, .string]⟩ : Registry).encode (.string "a") = .ok (.clob "a") ∧
    (⟨[.string, .clob]⟩ : Registry).encode (.string "a") = .ok (.varchar "a") := ⟨rfl, rfl⟩

end Registry

end SqlClient
