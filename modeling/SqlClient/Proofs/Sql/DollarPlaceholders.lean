import SqlClient.Proofs.Sql.RestyledScript

/-!
# Dollar signs for question marks

A new dollar sign is code, since no tag starts with the digit behind it. But it may be what a dollar
sign further left has lacked to open a dollar block. Where that happens the rest of the text is cut
in another way than before; where it does not, every lexeme stays where it was.
-/

namespace SqlClient.Sql

open SqlClient.Text Grammar

/-- The text starts with a placeholder, or with a tag and a placeholder behind it. -/
def TaggedPlaceholder (cs : List Char) : Prop :=
  ∃ tag d rest, IsTagText tag ∧ d.isDigit = true ∧ cs = tag ++ '?' :: d :: rest

/-- A dollar sign that is code, with a placeholder right behind it or behind a tag: with a dollar
sign for its question mark the placeholder completes the opening of a dollar block. -/
def Collides (ls : List Lexeme) : Prop :=
  ∃ before after, ls = before ++ ⟨.code, ['$']⟩ :: after ∧ TaggedPlaceholder (spell after)

variable {cs : List Char} {l : Lexeme} {ls : List Lexeme}

theorem collides_cons_iff : Collides (l :: ls) ↔
    (l = ⟨.code, ['$']⟩ ∧ TaggedPlaceholder (spell ls)) ∨ Collides ls := by
  constructor
  · rintro ⟨before, after, hsplit, htagged⟩
    cases before with
    | nil =>
      obtain ⟨rfl, rfl⟩ := List.cons.inj hsplit
      exact .inl ⟨rfl, htagged⟩
    | cons _ before => exact .inr ⟨before, after, (List.cons.inj hsplit).2, htagged⟩
  · rintro (⟨rfl, htagged⟩ | ⟨before, after, rfl, htagged⟩)
    · exact ⟨[], ls, rfl, htagged⟩
    · exact ⟨l :: before, after, rfl, htagged⟩

theorem lexemes_dollar_cons (hnone : dollarTag cs = none) :
    lexemes ('$' :: cs) = ⟨.code, ['$']⟩ :: lexemes cs := by
  have hcode : opening '$' cs = (.code, 0) := by simp only [opening, hnone]
  rw [lexemes_cons, hcode]
  rfl

/-- A text collides with its first character, or behind its first lexeme. -/
theorem collides_lexemes_cons_iff {c : Char} : Collides (lexemes (c :: cs)) ↔
    (c = '$' ∧ dollarTag cs = none ∧ TaggedPlaceholder cs) ∨
      Collides (lexemes (cs.drop (opening c cs).2)) := by
  rw [lexemes_cons, collides_cons_iff, spell_lexemes]
  refine or_congr_left ⟨?_, ?_⟩
  · rintro ⟨hfirst, htagged⟩
    obtain ⟨hcode, hchars⟩ := Lexeme.mk.inj hfirst
    obtain ⟨rfl, -⟩ := List.cons.inj hchars
    rw [opening_snd_of_code hcode, List.drop_zero] at htagged
    refine ⟨rfl, ?_, htagged⟩
    cases htag : dollarTag cs with
    | none => rfl
    | some tag => simp [opening, htag] at hcode
  · rintro ⟨rfl, hnone, htagged⟩
    simp [opening, hnone, htagged]

/-! ### Behind a dollar sign -/

/-- A placeholder starts with a dollar sign afterwards. -/
theorem head?_restyle_placeholder {d : Char} (hd : d.isDigit = true) (rest : List Char) :
    (spell (restyle .dollar (lexemes ('?' :: d :: rest)))).head? = some '$' := by
  have hdigit : lexemes (d :: rest) = ⟨.code, [d]⟩ :: lexemes rest :=
    lexemes_cons_of_notMem (notMem_openers_of_isTagChar (isTagChar_of_isDigit hd)) rest
  have hsign : (⟨.code, ['?']⟩ : Lexeme).restyled .dollar (some ⟨.code, [d]⟩) =
      ⟨.code, ['$']⟩ := by
    simp [Lexeme.restyled, Lexeme.isCodeChar, Lexeme.isCodeDigit, PlaceholderStyle.sigil,
      PlaceholderStyle.other, hd]
  rw [lexemes_cons_of_notMem (by decide), hdigit, restyle_cons, List.head?_cons, hsign]
  rfl

/-- Where a dollar sign stands afterwards there was one, or a placeholder. -/
theorem dollar_or_placeholder (h : (spell (restyle .dollar (lexemes cs))).head? = some '$') :
    cs.head? = some '$' ∨ ∃ d rest, d.isDigit = true ∧ cs = '?' :: d :: rest := by
  cases cs with
  | nil =>
    rw [lexemes] at h
    cases h
  | cons c cs =>
    rw [lexemes_cons, restyle_cons, spell_cons] at h
    rcases restyled_cases .dollar ⟨(opening c cs).1, c :: cs.take (opening c cs).2⟩
      (lexemes (cs.drop (opening c cs).2)).head? with hsame | ⟨hold, hdigit, -⟩
    · rw [hsame] at h
      exact .inl h
    · obtain ⟨hcode, hchars⟩ := Lexeme.mk.inj hold
      rw [opening_snd_of_code hcode, List.drop_zero] at hdigit
      obtain ⟨d, rest, rfl, hd⟩ := exists_digit_cons hdigit
      obtain ⟨rfl, -⟩ := List.cons.inj hchars
      exact .inr ⟨d, rest, hd, rfl⟩

/-- In front of a tag and a placeholder a dollar sign opens a block afterwards. -/
theorem TaggedPlaceholder.dollarTag_isSome (h : TaggedPlaceholder cs) :
    (dollarTag (spell (restyle .dollar (lexemes cs)))).isSome = true := by
  obtain ⟨tag, d, rest, htag, hd, rfl⟩ := h
  obtain ⟨more, hmore⟩ := List.head?_eq_some_iff.mp (head?_restyle_placeholder hd rest)
  rw [spell_restyle_tag_append htag.1, hmore, htag.dollarTag_eq]
  rfl

/-- In front of anything else it opens one only if it did before. -/
theorem dollarTag_restyle_eq_none {c : Char}
    (h : ¬ (c = '$' ∧ dollarTag cs = none ∧ TaggedPlaceholder cs)) (hc : c = '$')
    (hnone : dollarTag cs = none) : dollarTag (spell (restyle .dollar (lexemes cs))) = none := by
  have hplain : ¬ TaggedPlaceholder cs := fun htagged => h ⟨hc, hnone, htagged⟩
  by_contra hsome
  obtain ⟨tag, htag⟩ := Option.ne_none_iff_exists'.mp hsome
  obtain ⟨htext, hpre⟩ := dollarTag_eq_some_iff.mp htag
  have hresigned : ResignedText .dollar _ _ := resignedText_restyle (lexemes cs)
  rw [spell_lexemes] at hresigned
  -- the tag stood there before, so it is what follows it that has changed
  have hdollar : '$' ∉ tag := fun hmem => absurd (htext.1 _ hmem) (by decide)
  obtain ⟨more, rfl⟩ : tag <+: cs :=
    @prefix_of_resigned .dollar _ _ _ hdollar hresigned ((List.prefix_append _ _).trans hpre)
  rw [spell_restyle_tag_append htext.1, List.prefix_append_right_inj] at hpre
  have hhead : (spell (restyle .dollar (lexemes more))).head? = some '$' := by
    obtain ⟨later, hlater⟩ := hpre
    rw [← hlater]
    rfl
  rcases dollar_or_placeholder hhead with hsame | ⟨d, rest, hd, rfl⟩
  · obtain ⟨later, rfl⟩ := List.head?_eq_some_iff.mp hsame
    rw [htext.dollarTag_eq] at hnone
    cases hnone
  · exact hplain ⟨tag, d, rest, htext, hd, rfl⟩

/-! ### The whole text -/

/-- Where nothing collides, dollar signs for question marks leave every lexeme where it was. -/
theorem lexemes_spell_restyle_dollar (h : ¬ Collides (lexemes cs)) :
    lexemes (spell (restyle .dollar (lexemes cs))) = restyle .dollar (lexemes cs) := by
  fun_induction lexemes cs with
  | case1 => exact lexemes.eq_1
  | case2 c cs ih =>
    rw [← lexemes_cons, collides_lexemes_cons_iff, not_or] at h
    obtain ⟨hfirst, hlater⟩ := h
    rw [← lexemes_cons, lexemes_spell_restyle_cons (dollarTag_restyle_eq_none hfirst), ih hlater,
      lexemes_cons, restyle_cons]

theorem start_notMem_codeOffsetsFrom (hkind : l.kind ≠ .code) (hne : l.chars ≠ []) (start : Nat) :
    start ∉ codeOffsetsFrom start (l :: ls) := by
  intro hmem
  rw [codeOffsetsFrom, if_neg hkind, List.nil_append] at hmem
  have hle : start + byteSize l.chars ≤ start := (bounds_of_mem_codeOffsetsFrom hmem).1
  exact hne (byteSize_eq_zero (by omega))

/-- Where something collides, code is lost: the dollar sign of the leftmost collision is part of a
dollar block afterwards. -/
theorem codeOffsetsFrom_ne_of_collides (h : Collides (lexemes cs)) (start : Nat) :
    codeOffsetsFrom start (lexemes (spell (restyle .dollar (lexemes cs)))) ≠
      codeOffsetsFrom start (lexemes cs) := by
  fun_induction lexemes cs generalizing start with
  | case1 =>
    obtain ⟨before, after, hsplit, -⟩ := h
    simp at hsplit
  | case2 c cs ih =>
    rw [← lexemes_cons] at h ⊢
    by_cases hfirst : c = '$' ∧ dollarTag cs = none ∧ TaggedPlaceholder cs
    · obtain ⟨rfl, hnone, htagged⟩ := hfirst
      obtain ⟨tag, htag⟩ := Option.isSome_iff_exists.mp htagged.dollarTag_isSome
      have hblock : (opening '$' (spell (restyle .dollar (lexemes cs)))).1 ≠ .code := by
        simp [opening, htag]
      have hmem : start ∈ codeOffsetsFrom start (lexemes ('$' :: cs)) := by
        rw [lexemes_dollar_cons hnone, codeOffsetsFrom, if_pos rfl]
        exact List.mem_append_left _ (List.mem_range'_1.mpr ⟨Nat.le_refl _, Nat.lt_succ_self _⟩)
      intro heq
      rw [← heq, lexemes_dollar_cons hnone, restyle_cons, restyled_of_ne rfl, spell_cons,
        List.singleton_append, lexemes_cons] at hmem
      exact start_notMem_codeOffsetsFrom hblock (List.cons_ne_nil _ _) start hmem
    · have hlater := (collides_lexemes_cons_iff.mp h).resolve_left hfirst
      rw [lexemes_spell_restyle_cons (dollarTag_restyle_eq_none hfirst), lexemes_cons,
        codeOffsetsFrom, codeOffsetsFrom, kind_restyled, byteSize_restyled]
      exact fun heq => ih hlater _ (List.append_cancel_left heq)

/-- With dollar signs for its placeholders a text has its code where it had it if and only if none
of its dollar signs collides with a placeholder. Then what is quoted or commented in it is the same
too, and there is nothing left to restyle. -/
theorem withPlaceholders_dollar (sql : String) :
    let restyled := withPlaceholders .dollar sql
    (codeOffsets restyled = codeOffsets sql ↔ ¬ Collides (lexemes sql.toList)) ∧
      (¬ Collides (lexemes sql.toList) →
        (lexemes restyled.toList).filter (·.kind ≠ .code) =
            (lexemes sql.toList).filter (·.kind ≠ .code) ∧
          restylePlaceholders .dollar restyled = .unchanged) := by
  intro restyled
  have hlexemes : ¬ Collides (lexemes sql.toList) →
      lexemes restyled.toList = restyle .dollar (lexemes sql.toList) := by
    intro h
    rw [toList_withPlaceholders, lexemes_spell_restyle_dollar h]
  refine ⟨⟨fun heq h => ?_, fun h => ?_⟩, fun h => ⟨?_, ?_⟩⟩
  · rw [codeOffsets, toList_withPlaceholders, codeOffsets] at heq
    exact codeOffsetsFrom_ne_of_collides h 0 heq
  · rw [codeOffsets, hlexemes h, codeOffsetsFrom_restyle, codeOffsets]
  · rw [hlexemes h, filter_restyle]
  · rw [restylePlaceholders, hlexemes h]
    exact if_pos (restyle_of_styled (styled_restyle .dollar _))

/-- A dollar sign right in front of a placeholder. With a dollar sign for the question mark a block
opens there and ends within the literal behind it: code becomes part of the block, a placeholder of
the literal becomes code, and the next time it is restyled. -/
theorem withPlaceholders_dollar_collides :
    let sql := "SELECT $?1, '$$?2'"
    let restyled := withPlaceholders .dollar sql
    restyled = "SELECT $$1, '$$?2'" ∧
      codeOffsets sql = [0, 1, 2, 3, 4, 5, 6, 7, 8, 9, 10, 11] ∧
      codeOffsets restyled = [0, 1, 2, 3, 4, 5, 6, 15, 16] ∧
      restylePlaceholders .dollar restyled = .restyled "SELECT $$1, '$$$2'" := by
  refine ⟨?_, ?_, ?_, ?_⟩
  all_goals cbv

end SqlClient.Sql
