import SqlClient.Proofs.Sql.Split
import SqlClient.Sql.Placeholder

/-!
# Restyled placeholders

Restyling changes some sigils and nothing else. If the new sigils are question marks, which open and
close nothing, and the old ones were no part of a dollar block, every lexeme stays where it was.
-/

namespace SqlClient.Sql

open SqlClient.Text Grammar

/-- The text that restyling leaves. -/
def Restyled.text (sql : String) : Restyled → String
  | .unchanged => sql
  | .restyled text => text

/-- The text with its placeholders in the style `target`. -/
def withPlaceholders (target : PlaceholderStyle) (sql : String) : String :=
  (restylePlaceholders target sql).text sql

theorem toList_withPlaceholders (target : PlaceholderStyle) (sql : String) :
    (withPlaceholders target sql).toList = spell (restyle target (lexemes sql.toList)) := by
  rw [withPlaceholders, restylePlaceholders]
  split
  next h => rw [h, spell_lexemes, Restyled.text]
  next => rw [Restyled.text, String.toList_ofList]

/-! ### One lexeme -/

/-- The lexeme in front of `next`, restyled if it is the sigil of a placeholder. -/
def Lexeme.restyled (target : PlaceholderStyle) (l : Lexeme) (next : Option Lexeme) : Lexeme :=
  if l.isCodeChar target.other.sigil && next.any Lexeme.isCodeDigit then ⟨.code, [target.sigil]⟩
  else l

section Lexemes

variable {target : PlaceholderStyle} {l : Lexeme} {ls : List Lexeme}

theorem restyle_cons (l : Lexeme) (ls : List Lexeme) :
    restyle target (l :: ls) = l.restyled target ls.head? :: restyle target ls := by
  cases ls with
  | nil => simp [restyle, Lexeme.restyled]
  | cons m ls => simp [restyle, Lexeme.restyled]

/-- A lexeme is left as it is, or it is a sigil in front of a digit. -/
theorem restyled_cases (target : PlaceholderStyle) (l : Lexeme) (next : Option Lexeme) :
    l.restyled target next = l ∨ l = ⟨.code, [target.other.sigil]⟩ ∧
      next.any Lexeme.isCodeDigit = true ∧ l.restyled target next = ⟨.code, [target.sigil]⟩ := by
  rw [Lexeme.restyled]
  split
  next h =>
    rw [Bool.and_eq_true, isCodeChar_iff] at h
    exact .inr ⟨h.1, h.2, rfl⟩
  next => exact .inl rfl

theorem restyled_of_ne (h : l.isCodeChar target.other.sigil = false) (next : Option Lexeme) :
    l.restyled target next = l := by
  simp [Lexeme.restyled, h]

theorem restyled_of_not_digit {next : Option Lexeme} (h : next.any Lexeme.isCodeDigit = false) :
    l.restyled target next = l := by
  simp [Lexeme.restyled, h]

theorem isCodeChar_restyled {c : Char} (htarget : c ≠ target.sigil)
    (hother : c ≠ target.other.sigil) (l : Lexeme) (next : Option Lexeme) :
    (l.restyled target next).isCodeChar c = l.isCodeChar c := by
  rcases restyled_cases target l next with h | ⟨rfl, -, h⟩
  · rw [h]
  · rw [h]
    simp [Lexeme.isCodeChar, htarget.symm, hother.symm]

theorem isCodeDigit_restyled (l : Lexeme) (next : Option Lexeme) :
    (l.restyled target next).isCodeDigit = l.isCodeDigit := by
  rcases restyled_cases target l next with h | ⟨rfl, -, h⟩
  · rw [h]
  · rw [h]
    cases target <;> rfl

theorem kind_restyled (l : Lexeme) (next : Option Lexeme) :
    (l.restyled target next).kind = l.kind := by
  rcases restyled_cases target l next with h | ⟨rfl, -, h⟩ <;> rw [h]

theorem byteSize_restyled (l : Lexeme) (next : Option Lexeme) :
    (l.restyled target next).byteSize = l.byteSize := by
  rcases restyled_cases target l next with h | ⟨rfl, -, h⟩
  · rw [h]
  · rw [h]
    cases target <;> rfl

/-! ### All lexemes -/

theorem any_isCodeDigit_head?_restyle (ls : List Lexeme) :
    (restyle target ls).head?.any Lexeme.isCodeDigit = ls.head?.any Lexeme.isCodeDigit := by
  cases ls with
  | nil => rfl
  | cons l ls =>
    rw [restyle_cons]
    exact isCodeDigit_restyled l ls.head?

theorem codeOffsetsFrom_restyle (start : Nat) (ls : List Lexeme) :
    codeOffsetsFrom start (restyle target ls) = codeOffsetsFrom start ls := by
  induction ls generalizing start with
  | nil => rfl
  | cons l ls ih =>
    rw [restyle_cons, codeOffsetsFrom, codeOffsetsFrom, kind_restyled, byteSize_restyled, ih]

/-- What is quoted or commented stays as it is. -/
theorem filter_restyle (ls : List Lexeme) :
    (restyle target ls).filter (·.kind ≠ .code) = ls.filter (·.kind ≠ .code) := by
  induction ls with
  | nil => rfl
  | cons l ls ih =>
    rw [restyle_cons, List.filter_cons, List.filter_cons, kind_restyled, ih]
    rcases restyled_cases target l ls.head? with h | ⟨rfl, -, h⟩
    · rw [h]
    · simp

theorem restyle_append {ms : List Lexeme} (h : ms.head?.any Lexeme.isCodeDigit = false)
    (ls : List Lexeme) : restyle target (ls ++ ms) = restyle target ls ++ restyle target ms := by
  induction ls with
  | nil => rfl
  | cons l ls ih =>
    have hnext : l.restyled target (ls ++ ms).head? = l.restyled target ls.head? := by
      cases ls with
      | nil =>
        rw [List.nil_append, restyled_of_not_digit h]
        exact (restyled_of_not_digit rfl).symm
      | cons m ls => rfl
    rw [List.cons_append, restyle_cons, restyle_cons, ih, hnext, List.cons_append]

/-- No sigil of the other style stands in front of a digit. -/
def Styled (target : PlaceholderStyle) (ls : List Lexeme) : Prop :=
  ls.IsChain fun l next => l.isCodeChar target.other.sigil = true → next.isCodeDigit = false

theorem styled_cons_iff : Styled target (l :: ls) ↔
    (l.isCodeChar target.other.sigil = true → ls.head?.any Lexeme.isCodeDigit = false) ∧
      Styled target ls := by
  cases ls with
  | nil => simp [Styled]
  | cons m ls => simp [Styled, List.isChain_cons_cons]

theorem restyle_of_styled (h : Styled target ls) : restyle target ls = ls := by
  induction ls with
  | nil => rfl
  | cons l ls ih =>
    obtain ⟨hl, hls⟩ := styled_cons_iff.mp h
    rw [restyle_cons, ih hls]
    rcases restyled_cases target l ls.head? with hsame | ⟨hsigil, hdigit, -⟩
    · rw [hsame]
    · rw [hl (isCodeChar_iff.mpr hsigil)] at hdigit
      cases hdigit

theorem styled_restyle (target : PlaceholderStyle) (ls : List Lexeme) :
    Styled target (restyle target ls) := by
  induction ls with
  | nil => exact .nil
  | cons l ls ih =>
    rw [restyle_cons, styled_cons_iff, any_isCodeDigit_head?_restyle]
    refine ⟨fun hsigil => ?_, ih⟩
    cases hdigit : ls.head?.any Lexeme.isCodeDigit with
    | false => rfl
    | true =>
      -- in front of a digit the sigil would have been restyled
      rw [Lexeme.restyled, hdigit, Bool.and_true] at hsigil
      split at hsigil
      next => cases target <;> cases hsigil
      next hl => exact absurd hsigil hl

theorem restyle_eq_self_iff : restyle target ls = ls ↔ Styled target ls := by
  refine ⟨fun h => ?_, restyle_of_styled⟩
  rw [← h]
  exact styled_restyle target ls

end Lexemes

/-! ### One character for another -/

/-- The character, or the new sigil in the place of the old one. -/
def Resigned (target : PlaceholderStyle) (c d : Char) : Prop :=
  d = c ∨ c = target.other.sigil ∧ d = target.sigil

/-- A text with some of its sigils replaced. -/
abbrev ResignedText (target : PlaceholderStyle) : List Char → List Char → Prop :=
  List.Forall₂ (Resigned target)

section Resigned

variable {target : PlaceholderStyle} {cs ds : List Char}

/-- A character that is no sigil stands where it stood. -/
theorem Resigned.eq_iff {c d e : Char} (h : Resigned target c d) (hdollar : e ≠ '$')
    (hquestion : e ≠ '?') : d = e ↔ c = e := by
  rcases h with rfl | ⟨rfl, rfl⟩
  · exact Iff.rfl
  · cases target
    · exact iff_of_false hdollar.symm hquestion.symm
    · exact iff_of_false hquestion.symm hdollar.symm

theorem Resigned.isBlank_eq {c d : Char} (h : Resigned target c d) : isBlank d = isBlank c := by
  rcases h with rfl | ⟨rfl, rfl⟩
  · rfl
  · cases target <;> decide

theorem resignedText_refl (cs : List Char) : ResignedText target cs cs :=
  List.forall₂_same.mpr fun _ _ => .inl rfl

theorem resignedText_restyle (ls : List Lexeme) :
    ResignedText target (spell ls) (spell (restyle target ls)) := by
  induction ls with
  | nil => exact .nil
  | cons l ls ih =>
    rw [restyle_cons, spell_cons, spell_cons]
    refine List.rel_append (R := Resigned target) ?_ ih
    rcases restyled_cases target l ls.head? with h | ⟨rfl, -, h⟩
    · rw [h]
      exact resignedText_refl l.chars
    · rw [h]
      exact .cons (.inr ⟨rfl, rfl⟩) .nil

/-- What does not hold the new sigil has not become a beginning of the text. -/
theorem prefix_of_resigned {w : List Char} (hw : target.sigil ∉ w) (h : ResignedText target cs ds)
    (hpre : w <+: ds) : w <+: cs := by
  induction h generalizing w with
  | nil => exact hpre
  | cons hc _ ih =>
    cases w with
    | nil => exact List.nil_prefix
    | cons e w =>
      rw [List.cons_prefix_cons] at hpre ⊢
      obtain ⟨rfl, hpre⟩ := hpre
      refine ⟨?_, ih (fun hmem => hw (List.mem_cons_of_mem _ hmem)) hpre⟩
      rcases hc with heq | ⟨-, heq⟩
      · exact heq
      · exact absurd (heq ▸ List.mem_cons_self) hw

theorem quotedExtent_resigned {q : Char} (hdollar : q ≠ '$') (hquestion : q ≠ '?')
    (h : ResignedText target cs ds) : quotedExtent q ds = quotedExtent q cs := by
  fun_induction quotedExtent q cs generalizing ds with
  | case1 => cases h; rfl
  | case2 c =>
    obtain ⟨-, htail⟩ | ⟨hc, htail⟩ := h
    cases htail
    rfl
  | case3 rest ih =>
    obtain _ | ⟨hc, _ | ⟨hd, htail⟩⟩ := h
    rw [(hc.eq_iff hdollar hquestion).mpr rfl, (hd.eq_iff hdollar hquestion).mpr rfl,
      quotedExtent_doubled, ih htail]
  | case4 d rest hne =>
    obtain _ | ⟨hc, _ | ⟨hd, htail⟩⟩ := h
    rw [(hc.eq_iff hdollar hquestion).mpr rfl]
    refine quotedExtent_closing ?_
    simpa [hd.eq_iff hdollar hquestion] using hne
  | case5 c d rest hne ih =>
    obtain _ | ⟨hc, htail⟩ := h
    rw [← hc.eq_iff hdollar hquestion] at hne
    rw [quotedExtent_cons_of_ne hne, ih htail]

theorem lineExtent_resigned (h : ResignedText target cs ds) : lineExtent ds = lineExtent cs := by
  induction h with
  | nil => rfl
  | cons hc _ ih => simp [lineExtent, ih, hc.eq_iff (show '\n' ≠ '$' by decide)]

theorem blockExtent_resigned {inner : Nat} (h : ResignedText target cs ds) :
    blockExtent inner ds = blockExtent inner cs := by
  fun_induction blockExtent inner cs generalizing ds with
  | case1 inner => cases h; rfl
  | case2 inner c =>
    obtain _ | ⟨hc, htail⟩ := h
    cases htail
    rfl
  | case3 inner c d rest hopening ih =>
    obtain ⟨rfl, rfl⟩ := hopening
    obtain _ | ⟨hc, _ | ⟨hd, htail⟩⟩ := h
    rw [(hc.eq_iff (by decide) (by decide)).mpr rfl, (hd.eq_iff (by decide) (by decide)).mpr rfl,
      blockExtent_opening, ih htail]
  | case4 c d rest _ hclosing =>
    obtain ⟨rfl, rfl⟩ := hclosing
    obtain _ | ⟨hc, _ | ⟨hd, htail⟩⟩ := h
    rw [(hc.eq_iff (by decide) (by decide)).mpr rfl, (hd.eq_iff (by decide) (by decide)).mpr rfl,
      blockExtent_closing]
  | case5 c d rest _ hclosing outer ih =>
    obtain ⟨rfl, rfl⟩ := hclosing
    obtain _ | ⟨hc, _ | ⟨hd, htail⟩⟩ := h
    rw [(hc.eq_iff (by decide) (by decide)).mpr rfl, (hd.eq_iff (by decide) (by decide)).mpr rfl,
      blockExtent_closing_succ, ih htail]
  | case6 inner c d rest ho hclosing ih =>
    obtain _ | ⟨hc, hrest⟩ := h
    rw [blockExtent_plain, ih hrest]
    all_goals
      obtain _ | ⟨hd, -⟩ := hrest
      rw [List.head?_cons, Option.some_inj, hc.eq_iff (by decide) (by decide),
        hd.eq_iff (by decide) (by decide)]
      assumption

end Resigned

/-! ### Dollar blocks -/

theorem Grammar.IsTagText.dollarTag_eq {tag : List Char} (h : IsTagText tag) (rest : List Char) :
    dollarTag (tag ++ '$' :: rest) = some tag :=
  dollarTag_eq_some_iff.mpr ⟨h, (List.prefix_append_right_inj tag).mpr ⟨rest, rfl⟩⟩

theorem dollarExtent_closed {close cs : List Char} {c : Char} (h : close <+: c :: cs) :
    dollarExtent close (c :: cs) = close.length := by
  rw [dollarExtent, if_pos (List.isPrefixOf_iff_prefix.mpr h)]

theorem dollarExtent_open {close cs : List Char} {c : Char} (h : ¬ close <+: c :: cs) :
    dollarExtent close (c :: cs) = dollarExtent close cs + 1 := by
  rw [dollarExtent, if_neg (by rwa [List.isPrefixOf_iff_prefix])]

/-- A dollar block that closes has its closing in it; one that does not reaches to the end. -/
theorem le_dollarExtent (close cs : List Char) :
    close.length ≤ dollarExtent close cs ∨ dollarExtent close cs = cs.length := by
  induction cs with
  | nil => exact .inr rfl
  | cons c cs ih =>
    by_cases hpre : close <+: c :: cs
    · exact .inl (dollarExtent_closed hpre).ge
    · rw [dollarExtent_open hpre, List.length_cons]
      omega

/-- What stands behind a dollar block has no part in it. -/
theorem dollarExtent_of_take_eq {close cs ds : List Char} (hlength : ds.length = cs.length)
    (htake : ds.take (dollarExtent close cs) = cs.take (dollarExtent close cs)) :
    dollarExtent close ds = dollarExtent close cs := by
  induction cs generalizing ds with
  | nil =>
    obtain rfl := List.length_eq_zero_iff.mp hlength
    rfl
  | cons c cs ih =>
    have hwithin := le_dollarExtent close (c :: cs)
    have hstarts : close <+: ds ↔ close <+: c :: cs := by
      rcases hwithin with hle | hall
      · rw [← and_iff_left (a := close <+: ds) hle, ← List.prefix_take_iff, htake,
          List.prefix_take_iff, and_iff_left hle]
      · rw [hall, List.take_length, ← hlength, List.take_length] at htake
        rw [htake]
    cases ds with
    | nil => cases hlength
    | cons d ds =>
      by_cases hpre : close <+: c :: cs
      · rw [dollarExtent_closed hpre, dollarExtent_closed (hstarts.mpr hpre)]
      · rw [dollarExtent_open hpre, List.take_succ_cons, List.take_succ_cons] at htake
        rw [dollarExtent_open hpre, dollarExtent_open (mt hstarts.mp hpre),
          ih (Nat.succ.inj hlength) (List.cons.inj htake).2]

/-- A dollar block stays a dollar block of its size if its characters stay. -/
theorem opening_dollarBlock {cs ds tag : List Char} (htag : dollarTag cs = some tag)
    (hlength : ds.length = cs.length)
    (htake : ds.take (opening '$' cs).2 = cs.take (opening '$' cs).2) :
    opening '$' ds = opening '$' cs := by
  obtain ⟨htext, more, rfl⟩ := dollarTag_eq_some_iff.mp htag
  have hsize : (tag ++ ['$']).length = tag.length + 1 := by simp
  have hopening : ∀ rest, opening '$' (tag ++ ['$'] ++ rest) =
      (.dollarBlock, tag.length + 1 + dollarExtent ('$' :: tag ++ ['$']) rest) := by
    intro rest
    have hsame : dollarTag (tag ++ ['$'] ++ rest) = some tag := by
      rw [List.append_assoc]
      exact htext.dollarTag_eq rest
    simp only [opening, hsame]
    rw [← hsize, List.drop_left]
  rw [hopening, ← hsize] at htake
  rw [List.take_length_add_append] at htake
  obtain ⟨rest, rfl⟩ : tag ++ ['$'] <+: ds :=
    (List.prefix_append _ _).trans (htake ▸ List.take_prefix _ ds)
  rw [List.take_length_add_append, List.append_cancel_left_eq] at htake
  have hrest : rest.length = more.length := by simpa using hlength
  rw [hopening, hopening, dollarExtent_of_take_eq hrest htake]

/-! ### The first lexeme -/

section First

variable {target : PlaceholderStyle} {cs ds : List Char}

/-- A lexeme whose characters stay is the same lexeme, whatever becomes of those behind it, unless
they make a tag behind a dollar sign that had none. -/
theorem opening_resigned {c : Char} (h : ResignedText target cs ds)
    (hnone : c = '$' → dollarTag cs = none → dollarTag ds = none)
    (htake : ds.take (opening c cs).2 = cs.take (opening c cs).2) :
    opening c ds = opening c cs := by
  have hhead : ∀ {e}, e ≠ '$' → e ≠ '?' → (ds.head? = some e ↔ cs.head? = some e) := by
    intro e hdollar hquestion
    cases h with
    | nil => exact Iff.rfl
    | cons hc _ => simpa using hc.eq_iff hdollar hquestion
  by_cases hliteral : c = '\''
  · subst hliteral
    exact congrArg (Prod.mk _) (quotedExtent_resigned (by decide) (by decide) h)
  by_cases hidentifier : c = '"'
  · subst hidentifier
    exact congrArg (Prod.mk _) (quotedExtent_resigned (by decide) (by decide) h)
  by_cases hdollar : c = '$'
  · subst hdollar
    cases htag : dollarTag cs with
    | some tag => exact opening_dollarBlock htag h.length_eq.symm htake
    | none => simp only [opening, htag, hnone rfl htag]
  by_cases hline : c = '-' ∧ cs.head? = some '-'
  · obtain ⟨rfl, hcs⟩ := hline
    obtain ⟨more, rfl⟩ := List.head?_eq_some_iff.mp hcs
    obtain ⟨more', rfl⟩ := List.head?_eq_some_iff.mp ((hhead (by decide) (by decide)).mpr hcs)
    obtain _ | ⟨-, hmore⟩ := h
    exact congrArg (fun n => (LexemeKind.lineComment, n + 1)) (lineExtent_resigned hmore)
  by_cases hblock : c = '/' ∧ cs.head? = some '*'
  · obtain ⟨rfl, hcs⟩ := hblock
    obtain ⟨more, rfl⟩ := List.head?_eq_some_iff.mp hcs
    obtain ⟨more', rfl⟩ := List.head?_eq_some_iff.mp ((hhead (by decide) (by decide)).mpr hcs)
    obtain _ | ⟨-, hmore⟩ := h
    exact congrArg (fun n => (LexemeKind.blockComment, n + 1)) (blockExtent_resigned hmore)
  rw [opening_of_code hliteral hidentifier hline hblock hdollar,
    opening_of_code hliteral hidentifier (by rwa [hhead (by decide) (by decide)])
      (by rwa [hhead (by decide) (by decide)]) hdollar]

theorem take_drop_append_of_length_eq {n : Nat} {cs ds : List Char}
    (h : ds.length = (cs.drop n).length) :
    (cs.take n ++ ds).take n = cs.take n ∧ (cs.take n ++ ds).drop n = ds := by
  rw [List.length_drop] at h
  rcases Nat.le_total n cs.length with hle | hle
  · have hn : (cs.take n).length = n := by rw [List.length_take, Nat.min_eq_left hle]
    exact ⟨List.take_left' hn, List.drop_left' hn⟩
  · obtain rfl : ds = [] := List.length_eq_zero_iff.mp (by omega)
    rw [List.append_nil, List.take_take, Nat.min_self, List.take_of_length_le hle]
    exact ⟨rfl, List.drop_eq_nil_of_le hle⟩

/-- A character of a tag stays as it is. -/
theorem spell_restyle_tag_cons {t : Char} (h : isTagChar t = true) (cs : List Char) :
    spell (restyle target (lexemes (t :: cs))) = t :: spell (restyle target (lexemes cs)) := by
  have hsame : (⟨.code, [t]⟩ : Lexeme).isCodeChar target.other.sigil = false := by
    rw [← Bool.not_eq_true, isCodeChar_iff]
    rintro ⟨⟩
    revert h
    cases target <;> decide
  rw [lexemes_cons_of_notMem (notMem_openers_of_isTagChar h), restyle_cons, restyled_of_ne hsame,
    spell_cons, List.singleton_append]

theorem spell_restyle_tag_append {tag : List Char}
    (h : ∀ c ∈ tag, isTagChar c = true) (cs : List Char) :
    spell (restyle target (lexemes (tag ++ cs))) = tag ++ spell (restyle target (lexemes cs)) := by
  induction tag with
  | nil => rfl
  | cons t tag ih =>
    obtain ⟨ht, htag⟩ := List.forall_mem_cons.mp h
    rw [List.cons_append, spell_restyle_tag_cons ht, ih htag, List.cons_append]

/-- No tag starts with a digit. -/
theorem dollarTag_digit_cons {d : Char} (h : d.isDigit = true) (cs : List Char) :
    dollarTag (d :: cs) = none := by
  have htake : (d :: cs).takeWhile isTagChar = d :: cs.takeWhile isTagChar :=
    List.takeWhile_cons_of_pos (isTagChar_of_isDigit h)
  simp only [dollarTag, htake, List.head?_cons, Option.any_some, h, if_true]
  split <;> rfl

theorem exists_digit_cons (h : (lexemes cs).head?.any Lexeme.isCodeDigit = true) :
    ∃ d rest, cs = d :: rest ∧ d.isDigit = true := by
  cases cs with
  | nil =>
    rw [lexemes] at h
    cases h
  | cons d rest =>
    rw [lexemes_cons, List.head?_cons, Option.any_some, Lexeme.isCodeDigit, Bool.and_eq_true,
      List.all_cons, Bool.and_eq_true] at h
    exact ⟨d, rest, rfl, h.2.1⟩

/-- A new sigil is code, as the old one was. -/
theorem opening_sigil (h : (lexemes cs).head?.any Lexeme.isCodeDigit = true) :
    opening target.sigil (spell (restyle target (lexemes cs))) = (.code, 0) := by
  cases target with
  | question => exact opening_of_notMem (by decide) _
  | dollar =>
    obtain ⟨d, rest, rfl, hd⟩ := exists_digit_cons h
    rw [spell_restyle_tag_cons (isTagChar_of_isDigit hd)]
    simp only [PlaceholderStyle.sigil, opening, dollarTag_digit_cons hd]

/-- The first lexeme of a text stays where it was, unless new sigils have made a tag behind a dollar
sign that had none. -/
theorem lexemes_spell_restyle_cons {c : Char} (hnone : c = '$' → dollarTag cs = none →
      dollarTag (spell (restyle target (lexemes cs))) = none) :
    lexemes (spell (restyle target (lexemes (c :: cs)))) =
      (⟨(opening c cs).1, c :: cs.take (opening c cs).2⟩ : Lexeme).restyled target
          (lexemes (cs.drop (opening c cs).2)).head? ::
        lexemes (spell (restyle target (lexemes (cs.drop (opening c cs).2)))) := by
  rw [lexemes_cons, restyle_cons, spell_cons]
  have hcode : c = '$' → dollarTag cs = none → (opening c cs).2 = 0 := by
    rintro rfl htag
    simp only [opening, htag]
  generalize hn : (opening c cs).2 = n at hcode ⊢
  have hrest : ResignedText target _ _ := resignedText_restyle (lexemes (cs.drop n))
  rw [spell_lexemes] at hrest
  obtain ⟨htake, hdrop⟩ := take_drop_append_of_length_eq hrest.length_eq.symm
  rcases restyled_cases target ⟨(opening c cs).1, c :: cs.take n⟩ (lexemes (cs.drop n)).head?
    with hsame | ⟨-, hdigit, hsign⟩
  · have hresigned : ResignedText target cs
        (cs.take n ++ spell (restyle target (lexemes (cs.drop n)))) := by
      have happend := List.rel_append (R := Resigned target) (resignedText_refl (cs.take n)) hrest
      simpa only [List.take_append_drop] using happend
    have hopening := opening_resigned hresigned
      (fun hc htag => by
        rw [hcode hc htag]
        exact hnone hc htag)
      (by rw [hn]; exact htake)
    rw [hsame, List.cons_append, lexemes_cons, hopening, hn, htake, hdrop]
  · have hlater := lexemes_cons target.sigil (spell (restyle target (lexemes (cs.drop n))))
    rw [opening_sigil hdigit, List.take_zero, List.drop_zero] at hlater
    rw [hsign]
    exact hlater

end First

/-! ### Question marks for dollar signs -/

section Question

variable {cs ds : List Char}

theorem not_mem_tag {tag : List Char} (h : IsTagText tag) : '?' ∉ tag ++ ['$'] := by
  intro hmem
  rcases List.mem_append.mp hmem with hmem | hmem
  · exact absurd (h.1 _ hmem) (by decide)
  · exact absurd hmem (by decide)

theorem dollarTag_resigned (h : ResignedText .question cs ds) (hnone : dollarTag cs = none) :
    dollarTag ds = none := by
  by_contra hsome
  obtain ⟨tag, htag⟩ := Option.ne_none_iff_exists'.mp hsome
  obtain ⟨htext, hpre⟩ := dollarTag_eq_some_iff.mp htag
  have hsame : tag ++ ['$'] <+: cs := @prefix_of_resigned .question _ _ _ (not_mem_tag htext) h hpre
  rw [dollarTag_eq_some_iff.mpr ⟨htext, hsame⟩] at hnone
  cases hnone

/-- Question marks for dollar signs leave every lexeme where it was. -/
theorem lexemes_spell_restyle (cs : List Char) :
    lexemes (spell (restyle .question (lexemes cs))) = restyle .question (lexemes cs) := by
  fun_induction lexemes cs with
  | case1 => exact lexemes.eq_1
  | case2 c cs ih =>
    have hresigned : ResignedText .question _ _ := resignedText_restyle (lexemes cs)
    rw [spell_lexemes] at hresigned
    rw [← lexemes_cons, lexemes_spell_restyle_cons fun _ => dollarTag_resigned hresigned, ih,
      lexemes_cons, restyle_cons]

end Question

end SqlClient.Sql
