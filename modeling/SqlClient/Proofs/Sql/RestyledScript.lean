import SqlClient.Proofs.Sql.Restyle
import SqlClient.Proofs.Sql.Split

/-!
# Scripts with question marks

A text that has question marks for its placeholders has the code that it had, none of it a
placeholder of the other style. A statement of a script keeps the placeholders that it has there, so
a script may be cut before or after its placeholders are restyled.
-/

namespace SqlClient.Sql

open SqlClient.Text Grammar

/-! ### No placeholder is left -/

theorem exists_of_mem_codeOffsetsFrom {start i : Nat} {ls : List Lexeme}
    (h : i ∈ codeOffsetsFrom start ls) : ∃ before l after, ls = before ++ l :: after ∧
      l.kind = .code ∧ i ∈ List.range' (start + byteSize (spell before)) l.byteSize := by
  induction ls generalizing start with
  | nil => cases h
  | cons l ls ih =>
    rw [codeOffsetsFrom, List.mem_append] at h
    rcases h with h | h
    · split at h
      next hcode => exact ⟨[], l, ls, rfl, hcode, h⟩
      next => cases h
    · obtain ⟨before, m, after, rfl, hcode, hi⟩ := ih h
      refine ⟨l :: before, m, after, rfl, hcode, ?_⟩
      rwa [spell_cons, byteSize_append, ← Nat.add_assoc]

/-- An ASCII octet in code is a lexeme. -/
theorem exists_of_code_octet {cs : List Char} {i : Nat} {a : Char} (ha : a.toNat < 128)
    (hi : i ∈ codeOffsetsFrom 0 (lexemes cs)) (h : (encode cs)[i]? = some (octet a)) :
    ∃ before after, lexemes cs = before ++ ⟨.code, [a]⟩ :: after ∧
      i = (encode (spell before)).length := by
  obtain ⟨before, l, after, hsplit, hcode, hi⟩ := exists_of_mem_codeOffsetsFrom hi
  obtain ⟨c, hchars⟩ := @chars_of_mem_lexemes cs l (by simp [hsplit]) hcode
  rw [Nat.zero_add, byteSize_eq_length, Lexeme.byteSize, byteSize_eq_length] at hi
  rw [← spell_lexemes cs, hsplit, spell_append, spell_cons, encode_append, encode_append] at h
  have hmem := mem_of_getElem?_append hi h
  rw [hchars, encode_cons, encode_nil, List.append_nil, octet_mem_utf8EncodeChar ha] at hmem
  obtain ⟨kind, chars⟩ := l
  obtain rfl : kind = .code := hcode
  obtain rfl : chars = [c] := hchars
  obtain rfl := hmem
  refine ⟨before, after, hsplit, ?_⟩
  rw [encode_cons, utf8EncodeChar_of_lt ha, encode_nil, List.append_nil, List.length_singleton,
    List.range'_one, List.mem_singleton] at hi
  exact hi

/-- A text that starts with the octet of a digit starts with a code digit. -/
theorem isCodeDigit_head?_lexemes {cs : List Char} {b : UInt8} (h : (encode cs)[0]? = some b)
    (hb : IsDigit b) : (lexemes cs).head?.any Lexeme.isCodeDigit = true := by
  cases cs with
  | nil => cases h
  | cons c cs =>
    have hlow : b.toNat < 128 := toNat_lt_of_class (.inr (.inl hb))
    have hmem : b ∈ String.utf8EncodeChar c := by
      obtain ⟨d, ds, hds⟩ := List.exists_cons_of_ne_nil (String.utf8EncodeChar_ne_nil (c := c))
      rw [encode_cons, hds] at h
      rw [hds, ← Option.some.inj h]
      exact List.mem_cons_self
    have hc : c.toNat < 128 := by
      by_contra hhigh
      have := isHigh_of_mem (Nat.le_of_not_lt hhigh) b hmem
      exact absurd this (Nat.not_le_of_lt hlow)
    rw [utf8EncodeChar_of_lt hc, List.mem_singleton] at hmem
    have hdigit : c.isDigit = true := (isDigit_octet hc).mp (hmem ▸ hb)
    rw [lexemes_cons_of_notMem (notMem_openers_of_isTagChar (isTagChar_of_isDigit hdigit))]
    simp [Lexeme.isCodeDigit, hdigit]

theorem styled_append_cons {target : PlaceholderStyle} {before after : List Lexeme} {l : Lexeme}
    (h : Styled target (before ++ l :: after)) : l.isCodeChar target.other.sigil = true →
      after.head?.any Lexeme.isCodeDigit = false := by
  induction before with
  | nil => exact (styled_cons_iff.mp h).1
  | cons m before ih => exact ih (styled_cons_iff.mp h).2

theorem sigil_toNat_lt (style : PlaceholderStyle) : style.sigil.toNat < 128 := by
  cases style <;> decide

/-- At octet `i` there is, in code, the sigil of `style`, and a digit behind it. -/
def IsPlaceholder (style : PlaceholderStyle) (sql : String) (i : Nat) : Prop :=
  i ∈ codeOffsets sql ∧ (toUtf8 sql)[i]? = some (octet style.sigil) ∧
    ∃ b, (toUtf8 sql)[i + 1]? = some b ∧ IsDigit b

/-- At octet `i` of the lexemes the sigil of `style` stands in front of a code digit. -/
def SigilAt (style : PlaceholderStyle) (ls : List Lexeme) (i : Nat) : Prop :=
  ∃ before after, ls = before ++ ⟨.code, [style.sigil]⟩ :: after ∧
    after.head?.any Lexeme.isCodeDigit = true ∧ i = (encode (spell before)).length

theorem SigilAt.cons {style : PlaceholderStyle} {ls : List Lexeme} {i : Nat}
    (h : SigilAt style ls i) (l : Lexeme) :
    SigilAt style (l :: ls) ((encode l.chars).length + i) := by
  obtain ⟨before, after, rfl, hdigit, rfl⟩ := h
  refine ⟨l :: before, after, rfl, hdigit, ?_⟩
  rw [spell_cons, encode_append, List.length_append]

/-- Lexemes are styled where no sigil of the other style is in front of a code digit. -/
theorem styled_iff {target : PlaceholderStyle} {ls : List Lexeme} :
    Styled target ls ↔ ∀ i, ¬ SigilAt target.other ls i := by
  constructor
  · rintro h i ⟨before, after, rfl, hdigit, -⟩
    rw [styled_append_cons h (isCodeChar_iff.mpr rfl)] at hdigit
    cases hdigit
  · intro h
    induction ls with
    | nil => exact .nil
    | cons l ls ih =>
      refine styled_cons_iff.mpr ⟨fun hsigil => ?_, ih fun i hi => h _ (hi.cons l)⟩
      rw [isCodeChar_iff.mp hsigil] at h
      rw [← Bool.not_eq_true]
      exact fun hdigit => h 0 ⟨[], ls, rfl, hdigit, rfl⟩

/-- A text around one of its lexemes of a single ASCII character. -/
theorem encode_around {cs : List Char} {before after : List Lexeme} {kind : LexemeKind} {a : Char}
    (ha : a.toNat < 128) (h : lexemes cs = before ++ ⟨kind, [a]⟩ :: after) :
    encode cs = encode (spell before) ++ octet a :: encode (spell after) := by
  rw [← spell_lexemes cs, h, spell_append, spell_cons, encode_append, encode_append, encode_cons,
    utf8EncodeChar_of_lt ha, encode_nil, List.append_nil, List.singleton_append]

theorem lexemes_spell_behind {cs : List Char} {before after : List Lexeme} {l : Lexeme}
    (h : lexemes cs = before ++ l :: after) : lexemes (spell after) = after := by
  refine @lexemes_spell_of_append cs (before ++ [l]) _ ?_
  rw [h, List.append_assoc]
  rfl

/-- The digit behind a sigil that is code is code itself. -/
theorem isPlaceholder_iff {style : PlaceholderStyle} {sql : String} {i : Nat} :
    IsPlaceholder style sql i ↔ SigilAt style (lexemes sql.toList) i := by
  have hascii := sigil_toNat_lt style
  rw [IsPlaceholder, toUtf8_eq_encode, codeOffsets]
  constructor
  · rintro ⟨hi, hoctet, b, hb, hdigit⟩
    obtain ⟨before, after, hsplit, rfl⟩ := exists_of_code_octet hascii hi hoctet
    refine ⟨before, after, hsplit, ?_, rfl⟩
    rw [encode_around hascii hsplit, List.getElem?_append_right (Nat.le_succ _),
      Nat.succ_sub (Nat.le_refl _), Nat.sub_self, List.getElem?_cons_succ] at hb
    rw [← lexemes_spell_behind hsplit]
    exact isCodeDigit_head?_lexemes hb hdigit
  · rintro ⟨before, after, hsplit, hdigit, rfl⟩
    rw [← lexemes_spell_behind hsplit] at hdigit
    obtain ⟨d, rest, hspell, hd⟩ := exists_digit_cons hdigit
    have hlow := toNat_lt_of_isTagChar (isTagChar_of_isDigit hd)
    have htext := encode_around hascii hsplit
    rw [hspell, encode_cons, utf8EncodeChar_of_lt hlow] at htext
    refine ⟨?_, by simp [htext], octet d, by simp [htext], (isDigit_octet hlow).mpr hd⟩
    rw [hsplit, codeOffsetsFrom_append, codeOffsetsFrom, if_pos rfl, Nat.zero_add,
      byteSize_eq_length]
    refine List.mem_append_right _ (List.mem_append_left _ ?_)
    refine List.mem_range'_1.mpr ⟨Nat.le_refl _, ?_⟩
    exact Nat.lt_add_of_pos_right style.sigil.utf8Size_pos

/-- Where the lexemes are styled, no octet of the other sigil is code in front of a digit. -/
theorem not_isDigit_of_styled {target : PlaceholderStyle} {sql : String}
    (h : Styled target (lexemes sql.toList)) : ∀ i ∈ codeOffsets sql,
      (toUtf8 sql)[i]? = some (octet target.other.sigil) →
      ∀ b, (toUtf8 sql)[i + 1]? = some b → ¬ IsDigit b := by
  intro i hi hoctet b hb hdigit
  exact styled_iff.mp h i (isPlaceholder_iff.mp ⟨hi, hoctet, b, hb, hdigit⟩)

/-! ### Cut and restyled -/

section Pieces

variable {target : PlaceholderStyle}

theorem restyled_congr {l : Lexeme} {next next' : Option Lexeme}
    (h : next.any Lexeme.isCodeDigit = next'.any Lexeme.isCodeDigit) :
    l.restyled target next = l.restyled target next' := by
  rw [Lexeme.restyled, Lexeme.restyled, h]

theorem isCodeSemicolon_restyled (l : Lexeme) (next : Option Lexeme) :
    (l.restyled target next).isCodeChar ';' = l.isCodeChar ';' := by
  refine isCodeChar_restyled ?_ ?_ l next
  all_goals cases target <;> decide

theorem any_isCodeDigit_head?_of_pieces_eq {ls p : List Lexeme} {ps : List (List Lexeme)}
    (h : pieces ls = p :: ps) :
    ls.head?.any Lexeme.isCodeDigit = p.head?.any Lexeme.isCodeDigit := by
  cases ls with
  | nil =>
    obtain ⟨rfl, -⟩ := List.cons.inj h
    rfl
  | cons l ls =>
    cases hl : l.isCodeChar ';' with
    | true =>
      rw [isCodeChar_iff.mp hl, pieces_cons_semicolon] at h
      obtain ⟨rfl, -⟩ := List.cons.inj h
      rw [isCodeChar_iff.mp hl]
      rfl
    | false =>
      obtain ⟨q, qs, -, hcons⟩ := pieces_cons_of_ne hl ls
      rw [hcons] at h
      obtain ⟨rfl, -⟩ := List.cons.inj h
      rfl

theorem pieces_restyle (ls : List Lexeme) :
    pieces (restyle target ls) = (pieces ls).map (restyle target) := by
  induction ls with
  | nil => rfl
  | cons l ls ih =>
    rw [restyle_cons]
    cases hl : l.isCodeChar ';' with
    | true =>
      have hsame : l.restyled target ls.head? = l := by
        refine restyled_of_ne ?_ _
        rw [isCodeChar_iff.mp hl]
        cases target <;> rfl
      rw [hsame, isCodeChar_iff.mp hl, pieces_cons_semicolon, pieces_cons_semicolon, ih]
      rfl
    | false =>
      obtain ⟨p, ps, hps, hcons⟩ := pieces_cons_of_ne hl ls
      rw [← @isCodeSemicolon_restyled target l ls.head?] at hl
      obtain ⟨q, qs, hqs, hcons'⟩ := pieces_cons_of_ne hl (restyle target ls)
      rw [ih, hps, List.map_cons] at hqs
      obtain ⟨rfl, rfl⟩ := List.cons.inj hqs
      rw [hcons', hcons, List.map_cons, restyle_cons,
        restyled_congr (any_isCodeDigit_head?_of_pieces_eq hps)]

theorem resignedText_trimChars {cs ds : List Char} (h : ResignedText target cs ds) :
    ResignedText target (trimChars cs) (trimChars ds) := by
  have htrailing : ∀ {cs ds}, ResignedText target cs ds →
      ResignedText target (dropTrailingBlanks cs) (dropTrailingBlanks ds) := by
    intro cs ds h
    induction h with
    | nil => exact .nil
    | cons hc _ ih =>
      rw [dropTrailingBlanks, dropTrailingBlanks, hc.isBlank_eq]
      revert ih
      generalize dropTrailingBlanks _ = kept
      generalize dropTrailingBlanks _ = kept'
      rintro (_ | ⟨hd, htail⟩)
      · dsimp only
        split
        next => exact .nil
        next => exact .cons hc .nil
      · exact .cons hc (.cons hd htail)
  induction h with
  | nil => exact .nil
  | @cons c d cs ds hc htail ih =>
    rw [trimChars, trimChars]
    by_cases hblank : isBlank c = true
    · rw [List.dropWhile_cons_of_pos hblank,
        List.dropWhile_cons_of_pos (hc.isBlank_eq.trans hblank)]
      exact ih
    · rw [List.dropWhile_cons_of_neg hblank,
        List.dropWhile_cons_of_neg (by rwa [hc.isBlank_eq])]
      exact htrailing (.cons hc htail)

/-- A text without blanks at its ends has none after restyling. -/
theorem trimChars_eq_self_of_resigned {cs ds : List Char} (h : ResignedText target cs ds)
    (hcs : trimChars cs = cs) : trimChars ds = ds := by
  have hlength := (resignedText_trimChars h).length_eq
  rw [hcs, h.length_eq] at hlength
  exact trimChars_eq_self hlength.symm

/-- Lexemes that restyling leaves alone, whatever stands in front of them. -/
structure Inert (target : PlaceholderStyle) (ls : List Lexeme) : Prop where
  not_digit : ls.head?.any Lexeme.isCodeDigit = false
  not_sigil : ∀ l ∈ ls, l.isCodeChar target.other.sigil = false

theorem restyle_of_not_sigil {ls : List Lexeme}
    (h : ∀ l ∈ ls, l.isCodeChar target.other.sigil = false) (ms : List Lexeme) :
    restyle target (ls ++ ms) = ls ++ restyle target ms := by
  induction ls with
  | nil => rfl
  | cons l ls ih =>
    obtain ⟨hl, hls⟩ := List.forall_mem_cons.mp h
    rw [List.cons_append, restyle_cons, restyled_of_ne hl, ih hls, List.cons_append]

theorem Inert.restyle_append {ms : List Lexeme} (h : Inert target ms) (ls : List Lexeme) :
    restyle target (ls ++ ms) = restyle target ls ++ ms := by
  have hms := restyle_of_not_sigil h.not_sigil []
  rw [List.append_nil] at hms
  rw [SqlClient.Sql.restyle_append h.not_digit, hms]
  exact congrArg _ (List.append_nil ms)

theorem not_sigil_of_blanks {ls : List Lexeme} (h : ∀ c ∈ spell ls, isBlank c = true) :
    ∀ l ∈ ls, l.isCodeChar target.other.sigil = false := by
  intro l hl
  rw [← Bool.not_eq_true, isCodeChar_iff]
  rintro rfl
  have hblank := h target.other.sigil (List.mem_flatMap.mpr ⟨_, hl, List.mem_cons_self⟩)
  revert hblank
  cases target <;> decide

theorem inert_of_blanks {ls : List Lexeme} (h : ∀ c ∈ spell ls, isBlank c = true)
    (hne : ∀ l ∈ ls, l.chars ≠ []) : Inert target ls where
  not_digit := by
    cases ls with
    | nil => rfl
    | cons l ls =>
      obtain ⟨c, cs, hchars⟩ := List.exists_cons_of_ne_nil (hne l List.mem_cons_self)
      have hblank : isBlank c = true := h c (by simp [hchars])
      have hdigit : c.isDigit = false := by
        rw [← Bool.not_eq_true]
        intro hdigit
        rw [isBlank_of_isDigit hdigit] at hblank
        cases hblank
      simp [Lexeme.isCodeDigit, hchars, hdigit]
  not_sigil := not_sigil_of_blanks h

theorem inert_cons {l : Lexeme} {ls : List Lexeme} (hkind : l.kind ≠ .code)
    (h : ∀ m ∈ ls, m.isCodeChar target.other.sigil = false) : Inert target (l :: ls) where
  not_digit := by simp [Lexeme.isCodeDigit, hkind]
  not_sigil := List.forall_mem_cons.mpr ⟨by simp [Lexeme.isCodeChar, hkind], h⟩

/-- In front of a blank or a semicolon a text has the lexemes that it has on its own, but for what
restyling leaves alone. -/
theorem exists_inert {core trailing rest : List Char} {first later : List Lexeme}
    (hrest : Apart rest) (htrailing : ∀ c ∈ trailing, isBlank c = true)
    (hsplit : lexemes (core ++ (trailing ++ rest)) = first ++ later)
    (hfirst : spell first = core ++ trailing) :
    ∃ before alone here, Inert target alone ∧ Inert target here ∧
      lexemes core = before ++ alone ∧ first = before ++ here ∧
      spell here = spell alone ++ trailing := by
  have hapart := Apart.blanks_append htrailing hrest
  have hne : ∀ l ∈ first, l.chars ≠ [] := fun l hl =>
    chars_ne_nil_of_mem_lexemes l (by rw [hsplit]; exact List.mem_append_left _ hl)
  have hlength := congrArg List.length hfirst
  rw [List.length_append] at hlength
  rcases whole_or_broken core with hwhole | ⟨before, kind, chars, more, hbroken⟩
  · rw [hwhole _ hapart] at hsplit
    obtain ⟨here, rfl⟩ := prefix_of_length_le hsplit chars_ne_nil_of_mem_lexemes
      (by rw [spell_lexemes]; omega)
    rw [spell_append, spell_lexemes, List.append_cancel_left_eq] at hfirst
    refine ⟨lexemes core, [], here, ⟨rfl, nofun⟩, inert_of_blanks ?_ ?_,
      (List.append_nil _).symm, rfl, hfirst⟩
    · rwa [hfirst]
    · exact fun l hl => hne l (List.mem_append_right _ hl)
  · -- the lexeme in which the text ends is no code
    rw [hbroken.lexemes_append _ hapart] at hsplit
    have hpos := List.length_pos_of_ne_nil hbroken.ne_nil
    have hcore := hbroken.length_eq
    obtain ⟨here, rfl⟩ := prefix_of_length_le hsplit hbroken.chars_ne_nil (by omega)
    rw [List.append_assoc, List.append_cancel_left_eq] at hsplit
    rw [← hbroken.spell_eq, spell_append, List.append_assoc, List.append_cancel_left_eq] at hfirst
    cases here with
    | nil =>
      have hnil := congrArg List.length hfirst
      rw [spell_nil, List.length_nil, List.length_append] at hnil
      omega
    | cons l here =>
      obtain ⟨rfl, -⟩ := List.cons.inj hsplit
      refine ⟨before, [⟨kind, chars⟩], _, inert_cons hbroken.opened.kind_ne nofun,
        inert_cons hbroken.opened.kind_ne (not_sigil_of_blanks fun c hc => ?_),
        hbroken.lexemes_eq, rfl, ?_⟩
      · rw [spell_cons, List.append_assoc, List.append_cancel_left_eq] at hfirst
        exact htrailing c (hfirst ▸ List.mem_append_right _ hc)
      · rw [hfirst, spell_cons, spell_nil, List.append_nil]

/-- Trimmed and restyled, a piece is what it is restyled and trimmed. -/
theorem trimChars_spell_restyle {p later : List Lexeme} {rest : List Char} (hrest : Apart rest)
    (hsplit : lexemes (spell p ++ rest) = p ++ later) :
    trimChars (spell (restyle target p)) =
      spell (restyle target (lexemes (trimChars (spell p)))) := by
  obtain ⟨first, trailing, htrailing, hp, hfirst, hcore⟩ := exists_trimmed_lexemes hsplit
  have hleading : ∀ c ∈ (spell p).takeWhile isBlank, isBlank c = true :=
    fun c hc => List.mem_takeWhile_imp hc
  have htrim := trimChars_trimChars (spell p)
  generalize (spell p).takeWhile isBlank = leading at hp hleading
  generalize trimChars (spell p) = core at hfirst hcore htrim ⊢
  obtain ⟨before, alone, here, halone, hhere, hlexemes, rfl, hspell⟩ :=
    @exists_inert target _ _ _ _ _ hrest htrailing hcore hfirst
  have hresigned : ResignedText target _ _ := resignedText_restyle (lexemes core)
  rw [spell_lexemes] at hresigned
  calc trimChars (spell (restyle target p))
      = trimChars (leading ++ (spell (restyle target before) ++ (spell alone ++ trailing))) := by
        rw [hp, restyle_of_not_sigil (not_sigil_of_blanks (by rwa [spell_map_code])), spell_append,
          spell_map_code, hhere.restyle_append, spell_append, hspell]
    _ = trimChars (spell (restyle target (lexemes core))) := by
        rw [trimChars_blanks_append hleading, ← List.append_assoc,
          trimChars_append_blanks htrailing, hlexemes, halone.restyle_append, spell_append]
    _ = spell (restyle target (lexemes core)) := trimChars_eq_self_of_resigned hresigned htrim

/-- A piece has its lexemes, whatever stands in front of it. -/
theorem exists_of_mem_pieces {cs : List Char} {p : List Lexeme} (h : p ∈ pieces (lexemes cs)) :
    ∃ rest later, Apart rest ∧ lexemes (spell p ++ rest) = p ++ later := by
  obtain ⟨before, after, hpieces⟩ := List.append_of_mem h
  obtain ⟨earlier, later, hcs, -, -, hlater⟩ := exists_of_pieces_eq hpieces
  have hsplit := lexemes_spell_of_append hcs
  rw [spell_append] at hsplit
  refine ⟨spell later, later, ?_, hsplit⟩
  rcases hlater with rfl | ⟨rest, rfl⟩
  · exact .nil
  · exact .cons (.inr rfl) (spell rest)

end Pieces

theorem isEmpty_spell_restyle {target : PlaceholderStyle} (cs : List Char) :
    (spell (restyle target (lexemes cs))).isEmpty = cs.isEmpty := by
  have hresigned : ResignedText target _ _ := resignedText_restyle (lexemes cs)
  rw [spell_lexemes] at hresigned
  generalize spell (restyle target (lexemes cs)) = ds at hresigned
  cases hresigned <;> rfl

/-- It does not matter whether a text is cut before or after question marks take the place of
dollar signs. -/
theorem fragments_spell_restyle (cs : List Char) :
    fragments (spell (restyle .question (lexemes cs))) =
      (fragments cs).map fun f => spell (restyle .question (lexemes f)) := by
  have htrim : (pieces (lexemes cs)).map (fun p => trimChars (spell (restyle .question p))) =
      ((pieces (lexemes cs)).map fun p => trimChars (spell p)).map
        fun f => spell (restyle .question (lexemes f)) := by
    rw [List.map_map]
    refine List.map_congr_left fun p hp => ?_
    obtain ⟨rest, later, hrest, hsplit⟩ := exists_of_mem_pieces hp
    exact trimChars_spell_restyle hrest hsplit
  rw [fragments, lexemes_spell_restyle, pieces_restyle, List.map_map]
  refine (congrArg _ htrim).trans ?_
  rw [List.filter_map, fragments]
  congr 1
  refine List.filter_congr fun f _ => ?_
  rw [Function.comp_apply, isEmpty_spell_restyle]

theorem statements_withPlaceholders (sql : String) :
    statements (withPlaceholders .question sql) =
      (statements sql).map (withPlaceholders .question) := by
  rw [statements_eq, toList_withPlaceholders, fragments_spell_restyle, statements_eq, List.map_map,
    List.map_map]
  refine List.map_congr_left fun f _ => String.toList_inj.mp ?_
  rw [Function.comp_apply, Function.comp_apply, toList_withPlaceholders, String.toList_ofList,
    String.toList_ofList]

theorem lexemes_withPlaceholders (sql : String) :
    lexemes (withPlaceholders .question sql).toList = restyle .question (lexemes sql.toList) := by
  rw [toList_withPlaceholders, lexemes_spell_restyle]

/-- With question marks for its placeholders a text has its code where it had it, and what is quoted
or commented in it is the same. No dollar sign that is code stands in front of a digit any more, and
there is nothing left to restyle. Cut into statements, the text is the statements of the former
text, each with question marks for its placeholders. -/
theorem withPlaceholders_question (sql : String) :
    let restyled := withPlaceholders .question sql
    codeOffsets restyled = codeOffsets sql ∧
      (lexemes restyled.toList).filter (·.kind ≠ .code) =
        (lexemes sql.toList).filter (·.kind ≠ .code) ∧
      (∀ i ∈ codeOffsets restyled, (toUtf8 restyled)[i]? = some dollar →
        ∀ b, (toUtf8 restyled)[i + 1]? = some b → ¬ IsDigit b) ∧
      restylePlaceholders .question restyled = .unchanged ∧
      statements restyled = (statements sql).map (withPlaceholders .question) := by
  have hlexemes := lexemes_withPlaceholders sql
  have hstyled : Styled .question (lexemes (withPlaceholders .question sql).toList) := by
    rw [hlexemes]
    exact styled_restyle .question (lexemes sql.toList)
  refine ⟨?_, ?_, not_isDigit_of_styled hstyled, ?_, statements_withPlaceholders sql⟩
  · rw [codeOffsets, hlexemes, codeOffsetsFrom_restyle, codeOffsets]
  · rw [hlexemes, filter_restyle]
  · rw [restylePlaceholders]
    exact if_pos (restyle_of_styled hstyled)

/-- The dollar signs of a literal and of a dollar block stay. -/
example : withPlaceholders .question "a=$1 '$2' $$$3$$;$4" = "a=?1 '$2' $$$3$$;?4" := by cbv

end SqlClient.Sql
