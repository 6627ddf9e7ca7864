import Mathlib
import SqlClient.Proofs.Sql.Extent

/-!
# The code of a text

The lexemes that the lexer finds are the decomposition that the grammar describes, once every
character of code is taken octet by octet. The offsets of code are the places of the code octets in
it.
-/

namespace SqlClient.Sql.Grammar

open SqlClient.Text

/-! ### Dollar tags -/

theorem toNat_lt_of_isTagChar {c : Char} (h : isTagChar c = true) : c.toNat < 128 := by
  simp only [isTagChar, Char.isAlphanum, Char.isAlpha, Char.isUpper, Char.isLower, Char.isDigit,
    Bool.or_eq_true, Bool.and_eq_true, decide_eq_true_eq, beq_iff_eq, ge_iff_le,
    UInt32.le_iff_toNat_le] at h
  rcases h with ((⟨_, h⟩ | ⟨_, h⟩) | ⟨_, h⟩) | rfl
  · exact Nat.lt_of_le_of_lt h (by decide)
  · exact Nat.lt_of_le_of_lt h (by decide)
  · exact Nat.lt_of_le_of_lt h (by decide)
  · decide

/-- The classes of octets are those of the ASCII characters. -/
theorem isLetter_octet {c : Char} (hc : c.toNat < 128) : IsLetter (octet c) ↔ c.isAlpha = true := by
  have hoct := octet_toNat hc
  simp only [IsLetter, UInt8.le_iff_toNat_le, hoct, Char.isAlpha, Char.isUpper, Char.isLower,
    Bool.or_eq_true, Bool.and_eq_true, decide_eq_true_eq, ge_iff_le, UInt32.le_iff_toNat_le]
  exact Iff.rfl

theorem isDigit_octet {c : Char} (hc : c.toNat < 128) : IsDigit (octet c) ↔ c.isDigit = true := by
  have hoct := octet_toNat hc
  simp only [IsDigit, UInt8.le_iff_toNat_le, hoct, Char.isDigit, Bool.and_eq_true,
    decide_eq_true_eq, ge_iff_le, UInt32.le_iff_toNat_le]
  exact Iff.rfl

theorem octet_underscore {c : Char} (hc : c.toNat < 128) : octet c = underscore ↔ c = '_' :=
  octet_inj hc (by decide)

theorem isTagChar_iff {c : Char} (hc : c.toNat < 128) :
    isTagChar c = true ↔ IsLetter (octet c) ∨ IsDigit (octet c) ∨ octet c = underscore := by
  rw [isLetter_octet hc, isDigit_octet hc, octet_underscore hc, isTagChar, Char.isAlphanum,
    Bool.or_eq_true, Bool.or_eq_true, beq_iff_eq, or_assoc]

theorem toNat_lt_of_class {b : UInt8} (h : IsLetter b ∨ IsDigit b ∨ b = underscore) :
    b.toNat < 128 := by
  simp only [IsLetter, IsDigit, UInt8.le_iff_toNat_le] at h
  rcases h with (⟨_, h⟩ | ⟨_, h⟩) | ⟨_, h⟩ | rfl
  · exact Nat.lt_of_le_of_lt h (by decide)
  · exact Nat.lt_of_le_of_lt h (by decide)
  · exact Nat.lt_of_le_of_lt h (by decide)
  · decide

/-- Every octet of these classes is the octet of a tag character. -/
theorem exists_octet_eq {b : UInt8} (h : IsLetter b ∨ IsDigit b ∨ b = underscore) :
    ∃ c, octet c = b ∧ isTagChar c = true := by
  have hnat : (Char.ofUInt8 b).toNat = b.toNat := UInt8.toNat_toUInt32 b
  have hoct : octet (Char.ofUInt8 b) = b := by rw [octet, hnat, UInt8.ofNat_toNat]
  refine ⟨Char.ofUInt8 b, hoct, (isTagChar_iff ?_).mpr (by rwa [hoct])⟩
  rw [hnat]
  exact toNat_lt_of_class h

theorem exists_encode_eq : ∀ {bs : List UInt8},
    (∀ b ∈ bs, IsLetter b ∨ IsDigit b ∨ b = underscore) →
      ∃ cs, encode cs = bs ∧ ∀ c ∈ cs, isTagChar c = true
  | [], _ => ⟨[], rfl, by simp⟩
  | b :: bs, h => by
    obtain ⟨c, hc, hclass⟩ := exists_octet_eq (h b List.mem_cons_self)
    obtain ⟨cs, hcs, hclasses⟩ := exists_encode_eq fun b' hb => h b' (List.mem_cons_of_mem b hb)
    refine ⟨c :: cs, ?_, List.forall_mem_cons.mpr ⟨hclass, hclasses⟩⟩
    rw [encode_cons, utf8EncodeChar_of_lt (toNat_lt_of_isTagChar hclass), hc, hcs,
      List.singleton_append]

/-- Characters that the lexer accepts as a dollar tag. -/
def IsTagText (tag : List Char) : Prop :=
  (∀ c ∈ tag, isTagChar c = true) ∧ tag.head?.any Char.isDigit = false

theorem IsTagText.isTag {tag : List Char} (h : IsTagText tag) : IsTag (encode tag) := by
  obtain ⟨hclass, hdigit⟩ := h
  cases tag with
  | nil => trivial
  | cons c rest =>
    have hlt : ∀ {d}, d ∈ c :: rest → d.toNat < 128 := fun hd => toNat_lt_of_isTagChar (hclass _ hd)
    have hc := hlt List.mem_cons_self
    rw [encode_cons, utf8EncodeChar_of_lt hc, List.singleton_append]
    constructor
    · rcases (isTagChar_iff hc).mp (hclass c List.mem_cons_self) with h | h | h
      · exact .inl h
      · rw [isDigit_octet hc] at h
        simp [h] at hdigit
      · exact .inr h
    · intro b hb
      obtain ⟨d, hd, hb⟩ := List.mem_flatMap.mp hb
      have hmem := List.mem_cons_of_mem c hd
      rw [utf8EncodeChar_of_lt (hlt hmem), List.mem_singleton] at hb
      rw [hb]
      exact (isTagChar_iff (hlt hmem)).mp (hclass d hmem)

theorem IsTag.exists_text {tag : List UInt8} (h : IsTag tag) :
    ∃ text, encode text = tag ∧ IsTagText text := by
  cases tag with
  | nil => exact ⟨[], rfl, by simp, rfl⟩
  | cons b rest =>
    obtain ⟨c, rfl, hc⟩ := exists_octet_eq (h.1.imp_right .inr)
    obtain ⟨cs, hcs, hclasses⟩ := exists_encode_eq h.2
    have hlt := toNat_lt_of_isTagChar hc
    refine ⟨c :: cs, ?_, List.forall_mem_cons.mpr ⟨hc, hclasses⟩, ?_⟩
    · rw [encode_cons, utf8EncodeChar_of_lt hlt, hcs, List.singleton_append]
    · rw [List.head?_cons, Option.any_some, ← Bool.not_eq_true, ← isDigit_octet hlt]
      intro hdigit
      rcases h.1 with hletter | hunder
      · simp only [IsLetter, IsDigit, UInt8.le_iff_toNat_le] at hletter hdigit
        have h9 : (octet '9').toNat = 57 := by decide
        have hA : (octet 'A').toNat = 65 := by decide
        have ha : (octet 'a').toNat = 97 := by decide
        omega
      · rw [hunder] at hdigit
        exact absurd hdigit (by unfold IsDigit; decide)

/-- The lexer reads a tag exactly where a dollar sign follows it. -/
theorem dollarTag_eq_some_iff {cs tag : List Char} :
    dollarTag cs = some tag ↔ IsTagText tag ∧ tag ++ ['$'] <+: cs := by
  constructor
  · intro h
    have hsplit : cs.takeWhile isTagChar ++ cs.drop (cs.takeWhile isTagChar).length = cs :=
      List.prefix_iff_eq_append.mp (List.takeWhile_prefix isTagChar)
    simp only [dollarTag] at h
    split at h
    next more hdrop =>
      split_ifs at h with hdigit
      obtain rfl := Option.some.inj h
      rw [hdrop] at hsplit
      exact ⟨⟨fun c hc => List.mem_takeWhile_imp hc, by simpa using hdigit⟩, more,
        by simpa using hsplit⟩
    next => cases h
  · rintro ⟨⟨hclass, hdigit⟩, more, rfl⟩
    have htake : (tag ++ ['$'] ++ more).takeWhile isTagChar = tag := by
      rw [List.append_assoc, List.takeWhile_append_of_pos hclass, List.singleton_append,
        List.takeWhile_cons_of_neg (by decide), List.append_nil]
    rw [dollarTag, htake, List.append_assoc, List.drop_left]
    simp [hdigit]

/-! ### The first lexeme -/

/-- What ends where the grammar has it end is a lexeme. -/
theorem leads_of_endsAt {kind : LexemeKind} {opening : List UInt8} {cs : List Char} {n : Nat}
    (ho : Opening kind opening) (h : EndsAt (Closes opening kind) cs n) :
    Leads kind (opening ++ encode (cs.take n)) (encode (cs.drop n)) := by
  rcases h with hclosed | ⟨hn, hnone⟩
  · exact .closed ho hclosed
  · rw [List.take_of_length_le hn, List.drop_of_length_le hn]
    exact .unclosed ho hnone

theorem encode_fence {tag : List Char} : encode ('$' :: tag ++ ['$']) = fence (encode tag) := by
  have hdollar : encode ['$'] = [dollar] := by decide
  rw [List.cons_append, ← List.singleton_append, encode_append, encode_append, hdollar]
  rfl

theorem toNat_lt_of_mem_fence {tag : List Char} (h : IsTagText tag) :
    ∀ c ∈ '$' :: tag ++ ['$'], c.toNat < 128 := by
  intro c hc
  rw [List.cons_append, List.mem_cons, List.mem_append, List.mem_singleton] at hc
  rcases hc with rfl | hc | rfl
  · decide
  · exact toNat_lt_of_isTagChar (h.1 c hc)
  · decide

/-- A lexeme that the lexer finds is one. -/
theorem leads_opening {c : Char} {rest : List Char} (h : (opening c rest).1 ≠ .code) :
    Leads (opening c rest).1 (encode (c :: rest.take (opening c rest).2))
      (encode (rest.drop (opening c rest).2)) := by
  unfold opening at h ⊢
  split at h
  next => exact leads_of_endsAt .literal (endsAt_quotedExtent (by decide) _)
  next => exact leads_of_endsAt .identifier (endsAt_quotedExtent (by decide) _)
  next more => exact leads_of_endsAt .lineComment (endsAt_lineExtent more)
  next more => exact leads_of_endsAt .blockComment (endsAt_blockExtent 0 more)
  next =>
    split at h
    next tag htag =>
      obtain ⟨htext, more, rfl⟩ := dollarTag_eq_some_iff.mp htag
      have hlen : (tag ++ ['$']).length = tag.length + 1 := by simp
      have hleads := leads_of_endsAt (.dollarBlock htext.isTag)
        (encode_fence ▸ endsAt_dollarExtent (toNat_lt_of_mem_fence htext) rfl more)
      rw [← encode_fence, ← encode_append, List.cons_append, List.cons_append] at hleads
      rw [← hlen, List.drop_left, List.take_length_add_append, List.drop_length_add_append]
      exact hleads
    next => exact absurd rfl h
  next => exact absurd rfl h

theorem opening_snd_of_code {c : Char} {rest : List Char} (h : (opening c rest).1 = .code) :
    (opening c rest).2 = 0 := by
  unfold opening at h ⊢
  split at h
  next => cases h
  next => cases h
  next => cases h
  next => cases h
  next =>
    split at h
    next => cases h
    next => rfl
  next => rfl

/-- Where the lexer finds code, no lexeme opens. -/
theorem not_opening_of_code {c : Char} {rest : List Char} (h : (opening c rest).1 = .code)
    {kind : LexemeKind} {o : List UInt8} (ho : Opening kind o) : ¬ o <+: encode (c :: rest) := by
  intro hpre
  cases ho with
  | literal =>
    rw [show [apostrophe] = encode ['\''] by decide, encode_prefix_iff (by simp)] at hpre
    obtain ⟨_, hpre⟩ := hpre
    obtain ⟨rfl, _⟩ := List.cons.inj hpre
    cases h
  | identifier =>
    rw [show [quote] = encode ['"'] by decide, encode_prefix_iff (by simp)] at hpre
    obtain ⟨_, hpre⟩ := hpre
    obtain ⟨rfl, _⟩ := List.cons.inj hpre
    cases h
  | lineComment =>
    rw [show [dash, dash] = encode ['-', '-'] by decide, encode_prefix_iff (by simp)] at hpre
    obtain ⟨_, hpre⟩ := hpre
    obtain ⟨rfl, rfl⟩ := List.cons.inj hpre
    cases h
  | blockComment =>
    rw [← encode_commentOpening, encode_prefix_iff (by simp)] at hpre
    obtain ⟨_, hpre⟩ := hpre
    obtain ⟨rfl, rfl⟩ := List.cons.inj hpre
    cases h
  | dollarBlock htag =>
    obtain ⟨tag, rfl, htext⟩ := htag.exists_text
    rw [← encode_fence, encode_prefix_iff (toNat_lt_of_mem_fence htext), List.cons_append,
      List.cons_prefix_cons] at hpre
    obtain ⟨rfl, hpre⟩ := hpre
    have htag := dollarTag_eq_some_iff.mpr ⟨htext, hpre⟩
    simp [opening, htag] at h

theorem not_opening_of_isHigh {b : UInt8} (hb : IsHigh b) {kind : LexemeKind} {o t : List UInt8}
    (ho : Opening kind o) : ¬ o <+: b :: t := by
  rintro ⟨x, hx⟩
  have hhead := congrArg List.head? hx
  rw [List.head?_append, ho.head?_eq] at hhead
  obtain rfl := Option.some.inj hhead
  revert hb
  cases kind <;> unfold IsHigh <;> decide

/-! ### The decomposition -/

/-- A lexeme in octets, one lexeme for every octet of code. -/
def octetLexemes (l : Lexeme) : List OctetLexeme :=
  if l.kind = .code then (encode l.chars).map fun b => ⟨.code, [b]⟩ else [⟨l.kind, encode l.chars⟩]

theorem decomposes_code {w t : List UInt8} {ls : List OctetLexeme}
    (h : ∀ u b v, w = u ++ b :: v → ∀ kind o, Opening kind o → ¬ o <+: b :: (v ++ t))
    (ht : Decomposes t ls) : Decomposes (w ++ t) (w.map (fun b => ⟨.code, [b]⟩) ++ ls) := by
  induction w with
  | nil => exact ht
  | cons b w ih =>
    have hfirst : Leads .code [b] (w ++ t) := .code (h [] b w rfl)
    exact .cons hfirst (ih fun u b' v hw => h (b :: u) b' v (by rw [hw, List.cons_append]))

/-- The lexer finds the decomposition of a text. -/
theorem decomposes_lexemes (cs : List Char) :
    Decomposes (encode cs) ((lexemes cs).flatMap octetLexemes) := by
  fun_induction lexemes cs with
  | case1 => exact .nil
  | case2 c rest ih =>
    rw [List.flatMap_cons]
    by_cases hk : (opening c rest).1 = .code
    · rw [opening_snd_of_code hk, List.drop_zero] at ih
      rw [octetLexemes, if_pos hk, opening_snd_of_code hk, List.take_zero, List.drop_zero,
        encode_cons, encode_cons, encode_nil, List.append_nil]
      refine decomposes_code (fun u b v hw kind o ho => ?_) ih
      rcases Nat.lt_or_ge c.toNat 128 with hc | hc
      · rw [utf8EncodeChar_of_lt hc] at hw
        obtain ⟨rfl, rfl, rfl⟩ : u = [] ∧ b = octet c ∧ v = [] := by
          cases u with
          | nil => simpa [eq_comm] using hw
          | cons _ u => simp at hw
        have hnone := not_opening_of_code hk ho
        rwa [encode_cons, utf8EncodeChar_of_lt hc] at hnone
      · exact not_opening_of_isHigh (isHigh_of_mem hc b (by rw [hw]; simp)) ho
    · rw [octetLexemes, if_neg hk, List.singleton_append]
      have hsplit : encode (c :: rest) = encode (c :: rest.take (opening c rest).2) ++
          encode (rest.drop (opening c rest).2) := by
        rw [← encode_append, List.cons_append, List.take_append_drop]
      rw [hsplit]
      exact .cons (leads_opening hk) ih

/-! ### The places of code -/

/-- Where the code of lexemes stands if the first of them starts at `start`. -/
def codePlaces (start : Nat) : List OctetLexeme → List Nat
  | [] => []
  | l :: ls =>
    if l.kind = .code then start :: codePlaces (start + l.octets.length) ls
    else codePlaces (start + l.octets.length) ls

theorem codePlaces_map_code (w : List UInt8) (start : Nat) (ls : List OctetLexeme) :
    codePlaces start (w.map (fun b => ⟨.code, [b]⟩) ++ ls) =
      List.range' start w.length ++ codePlaces (start + w.length) ls := by
  induction w generalizing start with
  | nil => rfl
  | cons b w ih =>
    rw [List.map_cons, List.cons_append, codePlaces, if_pos rfl, List.length_singleton, ih,
      List.length_cons, List.range'_succ, List.cons_append, Nat.add_assoc, Nat.add_comm 1]

theorem byteSize_eq_length (cs : List Char) : byteSize cs = (encode cs).length := by
  induction cs with
  | nil => rfl
  | cons c cs ih =>
    rw [encode_cons, List.length_append, String.length_utf8EncodeChar, ← ih]; rfl

theorem codeOffsetsFrom_eq_codePlaces (ls : List Lexeme) (start : Nat) :
    codeOffsetsFrom start ls = codePlaces start (ls.flatMap octetLexemes) := by
  induction ls generalizing start with
  | nil => rfl
  | cons l ls ih =>
    rw [codeOffsetsFrom, List.flatMap_cons, octetLexemes, Lexeme.byteSize, byteSize_eq_length]
    by_cases hk : l.kind = .code
    · rw [if_pos hk, if_pos hk, codePlaces_map_code, ih]
    · rw [if_neg hk, if_neg hk, List.singleton_append, List.nil_append, codePlaces, if_neg hk, ih]

theorem mem_codePlaces {ls : List OctetLexeme} {start i : Nat} :
    i ∈ codePlaces start ls ↔ ∃ before l after, ls = before ++ l :: after ∧ l.kind = .code ∧
      i = start + (spell before).length := by
  induction ls generalizing start with
  | nil => simp [codePlaces]
  | cons l ls ih =>
    have later : i ∈ codePlaces (start + l.octets.length) ls ↔
        ∃ before l' after, ls = before ++ l' :: after ∧ l'.kind = .code ∧
          i = start + (spell (l :: before)).length := by
      rw [ih]
      simp only [spell, List.flatMap_cons, List.length_append, Nat.add_assoc]
    rw [codePlaces]
    constructor
    · intro hi
      split at hi
      next hk =>
        rcases List.mem_cons.mp hi with rfl | hi
        · exact ⟨[], l, ls, rfl, hk, rfl⟩
        · obtain ⟨before, l', after, rfl, h⟩ := later.mp hi
          exact ⟨l :: before, l', after, rfl, h⟩
      next =>
        obtain ⟨before, l', after, rfl, h⟩ := later.mp hi
        exact ⟨l :: before, l', after, rfl, h⟩
    · rintro ⟨before, l', after, heq, hk, hi⟩
      cases before with
      | nil =>
        obtain ⟨rfl, rfl⟩ := List.cons.inj heq
        rw [if_pos hk, hi]
        exact List.mem_cons_self
      | cons _ before =>
        obtain ⟨rfl, rfl⟩ := List.cons.inj heq
        have hmem := later.mpr ⟨before, l', after, rfl, hk, hi⟩
        split
        · exact List.mem_cons_of_mem _ hmem
        · exact hmem

theorem Decomposes.ne_nil {t : List UInt8} {ls : List OctetLexeme} (h : Decomposes t ls) :
    ∀ l ∈ ls, l.octets ≠ [] := by
  induction h with
  | nil => simp
  | cons hl _ ih => exact List.forall_mem_cons.mpr ⟨hl.ne_nil, ih⟩

theorem pairwise_codePlaces {ls : List OctetLexeme} (h : ∀ l ∈ ls, l.octets ≠ []) (start : Nat) :
    (codePlaces start ls).Pairwise (· < ·) := by
  induction ls generalizing start with
  | nil => exact .nil
  | cons l ls ih =>
    obtain ⟨hl, hls⟩ := List.forall_mem_cons.mp h
    rw [codePlaces]
    split
    · refine List.pairwise_cons.mpr ⟨fun i hi => ?_, ih hls _⟩
      obtain ⟨_, _, _, _, _, rfl⟩ := mem_codePlaces.mp hi
      have := List.length_pos_of_ne_nil hl
      omega
    · exact ih hls _

/-- A text has exactly one decomposition into lexemes, and the offsets of its code are, in ascending
order, the places of the code octets in it. -/
theorem codeOffsets_exact (sql : String) :
    ∃ ls, Decomposes (toUtf8 sql) ls ∧ (∀ ls', Decomposes (toUtf8 sql) ls' → ls' = ls) ∧
      (codeOffsets sql).Pairwise (· < ·) ∧
      ∀ i, i ∈ codeOffsets sql ↔ ∃ before l after, ls = before ++ l :: after ∧ l.kind = .code ∧
        i = (spell before).length := by
  have hdec := decomposes_lexemes sql.toList
  rw [toUtf8_eq_encode, codeOffsets, codeOffsetsFrom_eq_codePlaces]
  refine ⟨_, hdec, fun ls' h => (hdec.unique h).symm, pairwise_codePlaces hdec.ne_nil 0,
    fun i => ?_⟩
  simp only [mem_codePlaces, Nat.zero_add]

/-- A doubled quote, a nested comment and a dollar block whose body holds other dollar signs. -/
example : codeOffsets "a'b''c'd/*/**/x*/$t$ $u$ $t$;" = [0, 7, 28] := by cbv

end SqlClient.Sql.Grammar
