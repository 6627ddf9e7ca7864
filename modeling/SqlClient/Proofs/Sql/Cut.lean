import SqlClient.Proofs.Sql.CodeOffsets
import SqlClient.Sql.Split

/-!
# Where a text may be cut

A blank and a semicolon are part of no delimiter. In front of them a text either ends between two
lexemes, whatever follows, or it ends within a lexeme, which then goes on as if it had just been
opened.
-/

namespace SqlClient.Sql

open SqlClient.Text Grammar

/-- A character that is part of no delimiter and of no tag. -/
def IsApart (c : Char) : Prop := isBlank c = true ∨ c = ';'

/-- The text is empty or starts with such a character. -/
def Apart (cs : List Char) : Prop := ∀ c, cs.head? = some c → IsApart c

theorem Apart.nil : Apart [] := nofun

theorem Apart.cons {c : Char} (h : IsApart c) (cs : List Char) : Apart (c :: cs) := by
  intro d hd
  rw [← Option.some.inj hd]
  exact h

theorem IsApart.ne {c d : Char} (h : IsApart c) (hblank : isBlank d = false) (hd : d ≠ ';') :
    c ≠ d := by
  rintro rfl
  rcases h with h | rfl
  · rw [hblank] at h
    cases h
  · exact hd rfl

theorem IsApart.not_isTagChar {c : Char} (h : IsApart c) : isTagChar c = false := by
  rw [← Bool.not_eq_true]
  intro htag
  have hlt := toNat_lt_of_isTagChar htag
  have hall : ∀ n < 128, isTagChar (Char.ofNat n) = true →
      isBlank (Char.ofNat n) = false ∧ Char.ofNat n ≠ ';' := by decide
  obtain ⟨hblank, hne⟩ := hall c.toNat hlt (by rwa [Char.ofNat_toNat])
  rw [Char.ofNat_toNat] at hblank hne
  exact h.ne hblank hne rfl

/-! ### How far a lexeme extends -/

/-- What has been read of a lexeme closes it, or it goes on as `more`, whatever follows. -/
def Settled (extent more : List Char → Nat) (cs : List Char) : Prop :=
  (extent cs ≤ cs.length ∧ ∀ rest, Apart rest → extent (cs ++ rest) = extent cs) ∨
    ∀ rest, Apart rest → extent (cs ++ rest) = cs.length + more rest

/-- Characters in front only add to an extent. -/
theorem Settled.prepend {extent extent' more : List Char → Nat} {cs : List Char} (ds : List Char)
    (hextent : ∀ rest, Apart rest → extent (ds ++ cs ++ rest) = extent' (cs ++ rest) + ds.length)
    (h : Settled extent' more cs) : Settled extent more (ds ++ cs) := by
  rcases h with ⟨hle, hclosed⟩ | hopen
  · have hnil := hextent [] .nil
    rw [List.append_nil, List.append_nil] at hnil
    refine .inl ⟨?_, fun rest hrest => ?_⟩
    · rw [hnil, List.length_append]
      omega
    · rw [hextent rest hrest, hclosed rest hrest, hnil]
  · refine .inr fun rest hrest => ?_
    rw [hextent rest hrest, hopen rest hrest, List.length_append]
    omega

theorem Settled.nil (extent : List Char → Nat) : Settled extent extent [] :=
  .inr fun _ _ => (Nat.zero_add _).symm

theorem quotedExtent_cons_of_ne {q c : Char} (h : c ≠ q) (rest : List Char) :
    quotedExtent q (c :: rest) = quotedExtent q rest + 1 := by
  cases rest with
  | nil => rfl
  | cons d rest => rw [quotedExtent, if_neg h]

theorem quotedExtent_doubled (q : Char) (rest : List Char) :
    quotedExtent q (q :: q :: rest) = quotedExtent q rest + 2 := by
  rw [quotedExtent, if_pos rfl, if_pos rfl]

theorem quotedExtent_closing {q : Char} {rest : List Char} (h : rest.head? ≠ some q) :
    quotedExtent q (q :: rest) = 1 := by
  cases rest with
  | nil => rfl
  | cons d rest =>
    have hd : d ≠ q := by simpa using h
    rw [quotedExtent, if_pos rfl, if_neg hd]

theorem settled_quotedExtent {q : Char} (hq : ¬ IsApart q) (cs : List Char) :
    Settled (quotedExtent q) (quotedExtent q) cs := by
  fun_induction quotedExtent q cs with
  | case1 => exact .nil _
  | case2 c =>
    by_cases hc : c = q
    · subst hc
      refine .inl ⟨Nat.le_refl 1, fun rest hrest => ?_⟩
      exact quotedExtent_closing fun hhead => hq (hrest c hhead)
    · exact (Settled.nil _).prepend [c] fun rest _ => quotedExtent_cons_of_ne hc rest
  | case3 rest ih => exact ih.prepend [q, q] fun more _ => quotedExtent_doubled q (rest ++ more)
  | case4 d rest hd =>
    have hclosing : ∀ more, quotedExtent q (q :: d :: rest ++ more) = 1 := fun more =>
      quotedExtent_closing (by simpa using hd)
    refine .inl ⟨?_, fun more _ => ?_⟩
    · have hone := hclosing []
      rw [List.append_nil] at hone
      rw [hone]
      simp
    · have hone := hclosing []
      rw [List.append_nil] at hone
      rw [hclosing, hone]
  | case5 c d rest hc ih =>
    exact ih.prepend [c] fun more _ => quotedExtent_cons_of_ne hc (d :: rest ++ more)

theorem settled_lineExtent (cs : List Char) : Settled lineExtent lineExtent cs := by
  induction cs with
  | nil => exact .nil _
  | cons c cs ih =>
    by_cases hc : c = '\n'
    · left
      simp [lineExtent, hc]
    · refine ih.prepend [c] fun rest _ => ?_
      simp [lineExtent, hc]

theorem blockExtent_opening (inner : Nat) (rest : List Char) :
    blockExtent inner ('/' :: '*' :: rest) = blockExtent (inner + 1) rest + 2 := by
  cases inner <;> rw [blockExtent, if_pos ⟨rfl, rfl⟩]

theorem blockExtent_closing (rest : List Char) : blockExtent 0 ('*' :: '/' :: rest) = 2 := by
  rw [blockExtent, if_neg (by decide), if_pos ⟨rfl, rfl⟩]

theorem blockExtent_closing_succ (outer : Nat) (rest : List Char) :
    blockExtent (outer + 1) ('*' :: '/' :: rest) = blockExtent outer rest + 2 := by
  rw [blockExtent, if_neg (by decide), if_pos ⟨rfl, rfl⟩]

theorem blockExtent_plain {inner : Nat} {c : Char} {rest : List Char}
    (ho : ¬ (c = '/' ∧ rest.head? = some '*')) (hc : ¬ (c = '*' ∧ rest.head? = some '/')) :
    blockExtent inner (c :: rest) = blockExtent inner rest + 1 := by
  cases rest with
  | nil => rfl
  | cons d rest =>
    cases inner <;> rw [blockExtent, if_neg (by simpa using ho), if_neg (by simpa using hc)]

theorem settled_blockExtent (inner : Nat) (cs : List Char) :
    ∃ left, Settled (blockExtent inner) (blockExtent left) cs := by
  fun_induction blockExtent inner cs with
  | case1 inner => exact ⟨inner, .nil _⟩
  | case2 inner c =>
    refine ⟨inner, (Settled.nil _).prepend [c] fun rest hrest => ?_⟩
    refine blockExtent_plain ?_ ?_
    · rintro ⟨-, hhead⟩
      exact (hrest '*' hhead).ne (by decide) (by decide) rfl
    · rintro ⟨-, hhead⟩
      exact (hrest '/' hhead).ne (by decide) (by decide) rfl
  | case3 inner c d rest hopening ih =>
    obtain ⟨rfl, rfl⟩ := hopening
    obtain ⟨left, ih⟩ := ih
    exact ⟨left, ih.prepend ['/', '*'] fun more _ => blockExtent_opening inner (rest ++ more)⟩
  | case4 c d rest _ hclosing =>
    obtain ⟨rfl, rfl⟩ := hclosing
    refine ⟨0, .inl ⟨?_, fun more _ => ?_⟩⟩
    · rw [blockExtent_closing]
      simp
    · rw [blockExtent_closing]
      exact blockExtent_closing (rest ++ more)
  | case5 c d rest _ hclosing outer ih =>
    obtain ⟨rfl, rfl⟩ := hclosing
    obtain ⟨left, ih⟩ := ih
    exact ⟨left, ih.prepend ['*', '/'] fun more _ => blockExtent_closing_succ outer (rest ++ more)⟩
  | case6 inner c d rest ho hc ih =>
    obtain ⟨left, ih⟩ := ih
    exact ⟨left, ih.prepend [c] fun more _ =>
      blockExtent_plain (by simpa using ho) (by simpa using hc)⟩

/-- What holds no such character starts a text only if it starts the part in front of one. -/
theorem prefix_append_iff {w cs rest : List Char} (hw : ∀ c ∈ w, ¬ IsApart c) (hrest : Apart rest) :
    w <+: cs ++ rest ↔ w <+: cs := by
  induction cs generalizing w with
  | nil =>
    cases w with
    | nil => simp
    | cons c w =>
      refine iff_of_false ?_ (by simp)
      rintro ⟨more, hmore⟩
      refine hw c List.mem_cons_self (hrest c ?_)
      rw [← List.nil_append rest, ← hmore]
      rfl
  | cons d cs ih =>
    cases w with
    | nil => simp
    | cons c w =>
      rw [List.cons_append, List.cons_prefix_cons, List.cons_prefix_cons,
        ih fun c hc => hw c (List.mem_cons_of_mem _ hc)]

theorem settled_dollarExtent {close : List Char} (hclose : ∀ c ∈ close, ¬ IsApart c)
    (cs : List Char) : Settled (dollarExtent close) (dollarExtent close) cs := by
  have hstep : ∀ c cs, dollarExtent close (c :: cs) =
      if close <+: c :: cs then close.length else dollarExtent close cs + 1 := by
    intro c cs
    simp only [dollarExtent, List.isPrefixOf_iff_prefix]
  induction cs with
  | nil => exact .nil _
  | cons c cs ih =>
    by_cases hpre : close <+: c :: cs
    · refine .inl ⟨?_, fun rest _ => ?_⟩
      · rw [hstep, if_pos hpre]
        exact hpre.length_le
      · rw [hstep c cs, if_pos hpre, List.cons_append, hstep, if_pos]
        exact hpre.trans (List.prefix_append _ rest)
    · refine ih.prepend [c] fun rest hrest => ?_
      rw [← prefix_append_iff hclose hrest] at hpre
      exact (hstep c (cs ++ rest)).trans (if_neg hpre)

/-! ### Lexemes that have been opened -/

/-- The kind of a lexeme that has been opened, and how many characters of what follows belong to it.
-/
inductive Opened : LexemeKind → (List Char → Nat) → Prop
  | literal : Opened .literal (quotedExtent '\'')
  | identifier : Opened .identifier (quotedExtent '"')
  | lineComment : Opened .lineComment lineExtent
  | blockComment (inner : Nat) : Opened .blockComment (blockExtent inner)
  | dollarBlock {tag : List Char} : IsTagText tag →
      Opened .dollarBlock (dollarExtent ('$' :: tag ++ ['$']))

theorem not_isApart_of_mem_fence {tag : List Char} (h : IsTagText tag) :
    ∀ c ∈ '$' :: tag ++ ['$'], ¬ IsApart c := by
  have hdollar : ¬ IsApart '$' := fun h => h.ne (by decide) (by decide) rfl
  intro c hc hapart
  rw [List.cons_append, List.mem_cons, List.mem_append, List.mem_singleton] at hc
  rcases hc with rfl | hc | rfl
  · exact hdollar hapart
  · have htag := h.1 c hc
    rw [hapart.not_isTagChar] at htag
    cases htag
  · exact hdollar hapart

theorem dollarTag_append {rest : List Char} (hrest : Apart rest) (cs : List Char) :
    dollarTag (cs ++ rest) = dollarTag cs := by
  refine Option.ext fun tag => ?_
  rw [dollarTag_eq_some_iff, dollarTag_eq_some_iff]
  refine and_congr_right fun htag => prefix_append_iff (fun c hc => ?_) hrest
  exact not_isApart_of_mem_fence htag c (List.mem_cons_of_mem _ hc)

/-- After the opening of a lexeme, the characters that have been read close it, or they leave it
open, whatever follows. -/
def Started (c : Char) (cs : List Char) : Prop :=
  ((opening c cs).2 ≤ cs.length ∧ ∀ rest, Apart rest → opening c (cs ++ rest) = opening c cs) ∨
    ∃ kind more, Opened kind more ∧
      ∀ rest, Apart rest → opening c (cs ++ rest) = (kind, cs.length + more rest)

theorem Started.of_settled {c : Char} {kind : LexemeKind} {extent more : List Char → Nat}
    {cs : List Char} (ds : List Char)
    (hopening : ∀ rest, opening c (ds ++ cs ++ rest) = (kind, ds.length + extent (cs ++ rest)))
    (hmore : Opened kind more) (h : Settled extent more cs) : Started c (ds ++ cs) := by
  have hnil := hopening []
  rw [List.append_nil, List.append_nil] at hnil
  rcases h with ⟨hle, hclosed⟩ | hopen
  · refine .inl ⟨?_, fun rest hrest => ?_⟩
    · rw [hnil, List.length_append]
      exact Nat.add_le_add_left hle _
    · rw [hopening, hclosed rest hrest, hnil]
  · refine .inr ⟨kind, more, hmore, fun rest hrest => ?_⟩
    rw [hopening, hopen rest hrest, List.length_append, Nat.add_assoc]

theorem opening_of_code {c : Char} {cs : List Char} (hliteral : c ≠ '\'') (hidentifier : c ≠ '"')
    (hline : ¬ (c = '-' ∧ cs.head? = some '-')) (hblock : ¬ (c = '/' ∧ cs.head? = some '*'))
    (hdollar : c ≠ '$') : opening c cs = (.code, 0) := by
  unfold opening
  split <;> simp_all

/-- What is code stays code. -/
theorem Started.of_code {c : Char} {cs : List Char}
    (h : ∀ rest, Apart rest → opening c (cs ++ rest) = (.code, 0)) : Started c cs := by
  have hnil := h [] .nil
  rw [List.append_nil] at hnil
  refine .inl ⟨?_, fun rest hrest => ?_⟩
  · rw [hnil]
    exact Nat.zero_le _
  · rw [h rest hrest, hnil]

/-- A second character that opens nothing together with the first one does not come later. -/
theorem head?_append_ne {cs rest : List Char} {d : Char} (hd : ¬ IsApart d) (hrest : Apart rest)
    (h : cs.head? ≠ some d) : (cs ++ rest).head? ≠ some d := by
  cases cs with
  | nil => exact fun hhead => hd (hrest d hhead)
  | cons e cs => exact h

theorem started (c : Char) (cs : List Char) : Started c cs := by
  have hapart : ∀ {d : Char}, isBlank d = false → d ≠ ';' → ¬ IsApart d :=
    fun hblank hd h => h.ne hblank hd rfl
  by_cases hliteral : c = '\''
  · subst hliteral
    exact .of_settled [] (fun rest => by rw [List.length_nil, Nat.zero_add]; rfl) .literal
      (settled_quotedExtent (hapart (by decide) (by decide)) cs)
  by_cases hidentifier : c = '"'
  · subst hidentifier
    exact .of_settled [] (fun rest => by rw [List.length_nil, Nat.zero_add]; rfl) .identifier
      (settled_quotedExtent (hapart (by decide) (by decide)) cs)
  by_cases hdollar : c = '$'
  · subst hdollar
    cases htag : dollarTag cs with
    | some tag =>
      obtain ⟨htext, more, rfl⟩ := dollarTag_eq_some_iff.mp htag
      refine .of_settled (tag ++ ['$']) (fun rest => ?_) (.dollarBlock htext)
        (settled_dollarExtent (not_isApart_of_mem_fence htext) more)
      have hsame : dollarTag (tag ++ ['$'] ++ (more ++ rest)) = some tag :=
        dollarTag_eq_some_iff.mpr ⟨htext, List.prefix_append _ _⟩
      have hlength : (tag ++ ['$']).length = tag.length + 1 := by simp
      rw [List.append_assoc]
      simp only [opening, hsame]
      rw [← hlength, List.drop_left]
    | none =>
      refine .of_code fun rest hrest => ?_
      have hnone : dollarTag (cs ++ rest) = none := by rw [dollarTag_append hrest, htag]
      simp only [opening, hnone]
  by_cases hline : c = '-' ∧ cs.head? = some '-'
  · obtain ⟨rfl, hhead⟩ := hline
    obtain ⟨more, rfl⟩ := List.head?_eq_some_iff.mp hhead
    exact .of_settled ['-'] (fun rest => by rw [Nat.add_comm]; rfl) .lineComment
      (settled_lineExtent more)
  by_cases hblock : c = '/' ∧ cs.head? = some '*'
  · obtain ⟨rfl, hhead⟩ := hblock
    obtain ⟨more, rfl⟩ := List.head?_eq_some_iff.mp hhead
    obtain ⟨left, hsettled⟩ := settled_blockExtent 0 more
    exact .of_settled ['*'] (fun rest => by rw [Nat.add_comm]; rfl) (.blockComment left) hsettled
  refine .of_code fun rest hrest => opening_of_code hliteral hidentifier ?_ ?_ hdollar
  · rintro ⟨hc, hhead⟩
    exact head?_append_ne (hapart (by decide) (by decide)) hrest (fun h => hline ⟨hc, h⟩) hhead
  · rintro ⟨hc, hhead⟩
    exact head?_append_ne (hapart (by decide) (by decide)) hrest (fun h => hblock ⟨hc, h⟩) hhead

/-! ### Texts -/

/-- The text ends between two lexemes. -/
def Whole (cs : List Char) : Prop :=
  ∀ rest, Apart rest → lexemes (cs ++ rest) = lexemes cs ++ lexemes rest

/-- The text ends within a lexeme, of which it has these characters. -/
structure Broken (cs : List Char) (before : List Lexeme) (kind : LexemeKind) (chars : List Char)
    (more : List Char → Nat) : Prop where
  opened : Opened kind more
  spell_eq : spell before ++ chars = cs
  ne_nil : chars ≠ []
  lexemes_append : ∀ rest, Apart rest → lexemes (cs ++ rest) =
    before ++ ⟨kind, chars ++ rest.take (more rest)⟩ :: lexemes (rest.drop (more rest))

theorem lexemes_cons (c : Char) (cs : List Char) : lexemes (c :: cs) =
    ⟨(opening c cs).1, c :: cs.take (opening c cs).2⟩ :: lexemes (cs.drop (opening c cs).2) := by
  rw [lexemes]

/-- A text ends between two lexemes or within one, whatever follows. -/
theorem whole_or_broken (cs : List Char) :
    Whole cs ∨ ∃ before kind chars more, Broken cs before kind chars more := by
  fun_induction lexemes cs with
  | case1 =>
    left
    intro rest _
    rw [lexemes]
    rfl
  | case2 c cs ih =>
    rcases started c cs with ⟨hle, hclosed⟩ | ⟨kind, more, hopened, hopen⟩
    · -- the first lexeme is complete, and what follows it is whole or broken
      have hfirst : ∀ rest, Apart rest → lexemes (c :: cs ++ rest) =
          ⟨(opening c cs).1, c :: cs.take (opening c cs).2⟩ ::
            lexemes (cs.drop (opening c cs).2 ++ rest) := by
        intro rest hrest
        rw [List.cons_append, lexemes_cons, hclosed rest hrest,
          List.take_append_of_le_length hle, List.drop_append_of_le_length hle]
      rcases ih with hwhole | ⟨before, kind, chars, more, hbroken⟩
      · left
        intro rest hrest
        rw [hfirst rest hrest, hwhole rest hrest, lexemes_cons]
        rfl
      · refine .inr ⟨⟨(opening c cs).1, c :: cs.take (opening c cs).2⟩ :: before, kind, chars,
          more, hbroken.opened, ?_, hbroken.ne_nil, fun rest hrest => ?_⟩
        · rw [spell_cons, List.append_assoc, hbroken.spell_eq, List.cons_append,
            List.take_append_drop]
        · rw [hfirst rest hrest, hbroken.lexemes_append rest hrest]
          rfl
    · refine .inr ⟨[], kind, c :: cs, more, hopened, rfl, by simp, fun rest hrest => ?_⟩
      rw [List.cons_append, lexemes_cons, hopen rest hrest, List.take_length_add_append,
        List.drop_length_add_append]
      rfl

/-! ### Parts of a text -/

theorem chars_ne_nil_of_mem_lexemes {cs : List Char} : ∀ l ∈ lexemes cs, l.chars ≠ [] := by
  fun_induction lexemes cs with
  | case1 => exact fun l hl => absurd hl List.not_mem_nil
  | case2 c cs ih => exact List.forall_mem_cons.mpr ⟨List.cons_ne_nil _ _, ih⟩

/-- Of two beginnings of the same lexemes the one that spells less is a beginning of the other. -/
theorem prefix_of_length_le {ls ms first later : List Lexeme} (h : ls ++ ms = first ++ later)
    (hne : ∀ l ∈ ls, l.chars ≠ []) (hle : (spell ls).length ≤ (spell first).length) :
    ls <+: first := by
  rcases List.append_eq_append_iff.mp h with ⟨between, rfl, -⟩ | ⟨between, rfl, -⟩
  · exact List.prefix_append ls between
  · rw [spell_append, List.length_append] at hle
    cases between with
    | nil => rw [List.append_nil]
    | cons l between =>
      have hpos := List.length_pos_of_ne_nil (hne l (by simp))
      rw [spell_cons, List.length_append] at hle
      omega

/-- From one of its lexemes on, a text has the lexemes that it has there. -/
theorem lexemes_spell_of_append {cs : List Char} {before after : List Lexeme}
    (h : lexemes cs = before ++ after) : lexemes (spell after) = after := by
  induction before generalizing cs with
  | nil =>
    obtain rfl : lexemes cs = after := h
    rw [spell_lexemes]
  | cons l before ih =>
    cases cs with
    | nil =>
      rw [lexemes] at h
      cases h
    | cons c cs =>
      rw [lexemes_cons] at h
      exact ih (List.cons.inj h).2

/-- The characters that lexemes other than code start with. -/
def openers : List Char := ['\'', '"', '-', '/', '$']

theorem opening_of_notMem {c : Char} (h : c ∉ openers) (cs : List Char) :
    opening c cs = (.code, 0) := by
  simp only [openers, List.mem_cons, List.not_mem_nil, or_false, not_or] at h
  obtain ⟨hliteral, hidentifier, hdash, hslash, hdollar⟩ := h
  exact opening_of_code hliteral hidentifier (fun h => hdash h.1) (fun h => hslash h.1) hdollar

theorem lexemes_cons_of_notMem {c : Char} (h : c ∉ openers) (cs : List Char) :
    lexemes (c :: cs) = ⟨.code, [c]⟩ :: lexemes cs := by
  rw [lexemes_cons, opening_of_notMem h]
  rfl

theorem IsApart.notMem_openers {c : Char} (h : IsApart c) : c ∉ openers := by
  intro hmem
  simp only [openers, List.mem_cons, List.not_mem_nil, or_false] at hmem
  rcases hmem with rfl | rfl | rfl | rfl | rfl <;> exact h.ne (by decide) (by decide) rfl

theorem notMem_openers_of_isTagChar {c : Char} (h : isTagChar c = true) : c ∉ openers := by
  intro hmem
  simp only [openers, List.mem_cons, List.not_mem_nil, or_false] at hmem
  rcases hmem with rfl | rfl | rfl | rfl | rfl <;> exact absurd h (by decide)

theorem isTagChar_of_isDigit {d : Char} (h : d.isDigit = true) : isTagChar d = true := by
  simp [isTagChar, Char.isAlphanum, h]

theorem isBlank_of_isDigit {d : Char} (h : d.isDigit = true) : isBlank d = false := by
  rw [← Bool.not_eq_true]
  intro hblank
  have htag := IsApart.not_isTagChar (.inl hblank)
  rw [isTagChar_of_isDigit h] at htag
  cases htag

theorem lexemes_cons_of_apart {c : Char} (hc : IsApart c) (cs : List Char) :
    lexemes (c :: cs) = ⟨.code, [c]⟩ :: lexemes cs :=
  lexemes_cons_of_notMem hc.notMem_openers cs

/-- Blanks in front of a text are code. -/
theorem lexemes_blanks_append {blanks : List Char} (h : ∀ c ∈ blanks, isBlank c = true)
    (cs : List Char) : lexemes (blanks ++ cs) = blanks.map (⟨.code, [·]⟩) ++ lexemes cs := by
  induction blanks with
  | nil => rfl
  | cons c blanks ih =>
    obtain ⟨hc, hblanks⟩ := List.forall_mem_cons.mp h
    rw [List.cons_append, lexemes_cons_of_apart (.inl hc), ih hblanks]
    rfl

theorem Apart.blanks_append {blanks rest : List Char} (h : ∀ c ∈ blanks, isBlank c = true)
    (hrest : Apart rest) : Apart (blanks ++ rest) := by
  cases blanks with
  | nil => exact hrest
  | cons c blanks => exact .cons (.inl (h c List.mem_cons_self)) _

/-! ### Texts that end within a lexeme -/

section Broken

variable {cs chars : List Char} {before : List Lexeme} {kind : LexemeKind} {more : List Char → Nat}

theorem Opened.kind_ne (h : Opened kind more) : kind ≠ .code := by
  cases h <;> exact nofun

/-- Outside of line comments these characters close nothing. -/
theorem Opened.more_cons {c : Char} (h : Opened kind more) (hkind : kind ≠ .lineComment)
    (hc : IsApart c) (rest : List Char) : more (c :: rest) = more rest + 1 := by
  cases h with
  | literal => exact quotedExtent_cons_of_ne (hc.ne (by decide) (by decide)) rest
  | identifier => exact quotedExtent_cons_of_ne (hc.ne (by decide) (by decide)) rest
  | lineComment => exact absurd rfl hkind
  | blockComment inner =>
    refine blockExtent_plain ?_ ?_
    · exact fun h => hc.ne (by decide) (by decide) h.1
    · exact fun h => hc.ne (by decide) (by decide) h.1
  | dollarBlock _ =>
    rw [dollarExtent, if_neg]
    rw [List.isPrefixOf_iff_prefix, List.cons_append, List.cons_prefix_cons]
    exact fun h => hc.ne (by decide) (by decide) h.1.symm

theorem Opened.length_lt_more {blanks : List Char} (h : Opened kind more)
    (hkind : kind ≠ .lineComment) (hblanks : ∀ c ∈ blanks, isBlank c = true) (rest : List Char) :
    blanks.length < more (blanks ++ ';' :: rest) := by
  induction blanks with
  | nil =>
    rw [List.nil_append, h.more_cons hkind (.inr rfl)]
    exact Nat.succ_pos _
  | cons c blanks ih =>
    obtain ⟨hc, hblanks⟩ := List.forall_mem_cons.mp hblanks
    rw [List.cons_append, h.more_cons hkind (.inl hc), List.length_cons]
    exact Nat.succ_lt_succ (ih hblanks)

theorem Broken.lexemes_eq (h : Broken cs before kind chars more) :
    lexemes cs = before ++ [⟨kind, chars⟩] := by
  have hnil := h.lexemes_append [] .nil
  rw [List.append_nil, List.take_nil, List.drop_nil, List.append_nil, lexemes] at hnil
  exact hnil

theorem Broken.chars_ne_nil (h : Broken cs before kind chars more) : ∀ l ∈ before, l.chars ≠ [] :=
  fun l hl => chars_ne_nil_of_mem_lexemes l
    (by rw [h.lexemes_eq]; exact List.mem_append_left _ hl)

theorem Broken.length_eq (h : Broken cs before kind chars more) :
    (spell before).length + chars.length = cs.length := by
  rw [← List.length_append, h.spell_eq]

/-- A lexeme that blanks leave open goes on behind the semicolon after them, unless it is a comment
that a line end closes. -/
theorem Broken.kind_eq (h : Broken cs before kind chars more) {blanks rest : List Char}
    (hblanks : ∀ c ∈ blanks, isBlank c = true) {first later : List Lexeme}
    (hfirst : spell first = cs ++ blanks)
    (hsplit : lexemes (cs ++ (blanks ++ ';' :: rest)) = first ++ later) : kind = .lineComment := by
  by_contra hkind
  have hlong := h.opened.length_lt_more hkind hblanks rest
  have hpos := List.length_pos_of_ne_nil h.ne_nil
  have hlength := congrArg List.length hfirst
  rw [List.length_append, ← h.length_eq] at hlength
  rw [h.lexemes_append _ (.blanks_append hblanks (.cons (.inr rfl) rest))] at hsplit
  obtain ⟨between, rfl⟩ := prefix_of_length_le hsplit h.chars_ne_nil (by omega)
  rw [spell_append, List.length_append] at hlength
  rw [List.append_assoc, List.append_cancel_left_eq] at hsplit
  cases between with
  | nil =>
    rw [spell_nil, List.length_nil] at hlength
    omega
  | cons l between =>
    obtain ⟨rfl, -⟩ := List.cons.inj hsplit
    simp only [spell_cons, List.length_append, List.length_take, List.length_cons] at hlength
    omega

/-- A line end closes a line comment. -/
theorem Broken.lexemes_lineEnd (h : Broken cs before .lineComment chars more) (rest : List Char) :
    lexemes (cs ++ '\n' :: rest) = before ++ ⟨.lineComment, chars ++ ['\n']⟩ :: lexemes rest := by
  have hmore : more ('\n' :: rest) = 1 := by
    cases h.opened with
    | lineComment => exact if_pos rfl
  rw [h.lexemes_append _ (.cons (.inl (by decide)) rest), hmore]
  rfl

end Broken

/-- The code of a text that ends before a blank or a semicolon is code of the longer text. -/
theorem mem_of_mem_lexemes {cs rest : List Char} (hrest : Apart rest) {first later : List Lexeme}
    (hsplit : lexemes (cs ++ rest) = first ++ later) (hle : cs.length ≤ (spell first).length)
    {l : Lexeme} (hl : l ∈ lexemes cs) (hcode : l.kind = .code) : l ∈ first := by
  rcases whole_or_broken cs with hwhole | ⟨before, kind, chars, more, hbroken⟩
  · rw [hwhole rest hrest] at hsplit
    have hprefix := prefix_of_length_le hsplit chars_ne_nil_of_mem_lexemes (by rwa [spell_lexemes])
    exact hprefix.subset hl
  · rw [hbroken.lexemes_append rest hrest] at hsplit
    have hlength := hbroken.length_eq
    have hprefix := prefix_of_length_le hsplit hbroken.chars_ne_nil (by omega)
    rw [hbroken.lexemes_eq, List.mem_append, List.mem_singleton] at hl
    rcases hl with hl | rfl
    · exact hprefix.subset hl
    · exact absurd hcode hbroken.opened.kind_ne

/-! ### Offsets of code -/

theorem codeOffsetsFrom_append (start : Nat) (ls ms : List Lexeme) :
    codeOffsetsFrom start (ls ++ ms) =
      codeOffsetsFrom start ls ++ codeOffsetsFrom (start + byteSize (spell ls)) ms := by
  induction ls generalizing start with
  | nil => rfl
  | cons l ls ih =>
    rw [List.cons_append, codeOffsetsFrom, codeOffsetsFrom, ih, spell_cons, byteSize_append,
      List.append_assoc, ← Nat.add_assoc]
    rfl

theorem codeOffsetsFrom_add (start shift : Nat) (ls : List Lexeme) :
    codeOffsetsFrom (start + shift) ls = (codeOffsetsFrom start ls).map (· + shift) := by
  induction ls generalizing start with
  | nil => rfl
  | cons l ls ih =>
    rw [codeOffsetsFrom, codeOffsetsFrom, List.map_append, ← ih, Nat.add_right_comm]
    congr 1
    split
    · rw [Nat.add_comm start, ← List.map_add_range']
      simp only [Nat.add_comm]
    · rfl

theorem bounds_of_mem_codeOffsetsFrom {start i : Nat} {ls : List Lexeme}
    (h : i ∈ codeOffsetsFrom start ls) : start ≤ i ∧ i < start + byteSize (spell ls) := by
  induction ls generalizing start with
  | nil => cases h
  | cons l ls ih =>
    rw [spell_cons, byteSize_append]
    rw [codeOffsetsFrom, List.mem_append] at h
    rcases h with h | h
    · split at h
      · rw [List.mem_range'_1, Lexeme.byteSize] at h
        omega
      · cases h
    · have := ih h
      rw [Lexeme.byteSize] at this
      omega

theorem filter_codeOffsetsFrom_eq_self {start stop : Nat} {ls : List Lexeme}
    (h : start + byteSize (spell ls) ≤ stop) :
    (codeOffsetsFrom start ls).filter (· < stop) = codeOffsetsFrom start ls := by
  refine List.filter_eq_self.mpr fun i hi => decide_eq_true ?_
  have := bounds_of_mem_codeOffsetsFrom hi
  omega

theorem filter_codeOffsetsFrom_eq_nil {start stop : Nat} {ls : List Lexeme} (h : stop ≤ start) :
    (codeOffsetsFrom start ls).filter (· < stop) = [] := by
  refine List.filter_eq_nil_iff.mpr fun i hi => ?_
  have := bounds_of_mem_codeOffsetsFrom hi
  rw [decide_eq_true_eq]
  omega

/-- A text has the code that it has in front of a blank or a semicolon. -/
theorem codeOffsetsFrom_lexemes_eq_filter {rest : List Char} (hrest : Apart rest) (start : Nat)
    (cs : List Char) : codeOffsetsFrom start (lexemes cs) =
      (codeOffsetsFrom start (lexemes (cs ++ rest))).filter (· < start + byteSize cs) := by
  rcases whole_or_broken cs with hwhole | ⟨before, kind, chars, more, hbroken⟩
  · rw [hwhole rest hrest, codeOffsetsFrom_append, List.filter_append, spell_lexemes,
      filter_codeOffsetsFrom_eq_self (by rw [spell_lexemes]),
      filter_codeOffsetsFrom_eq_nil (Nat.le_refl _), List.append_nil]
  · have hsize := congrArg byteSize hbroken.spell_eq
    rw [byteSize_append] at hsize
    -- the lexeme at the end of the text is no code, and what follows it starts behind the text
    rw [hbroken.lexemes_eq, hbroken.lexemes_append rest hrest, codeOffsetsFrom_append,
      codeOffsetsFrom_append, codeOffsetsFrom, codeOffsetsFrom, codeOffsetsFrom,
      if_neg hbroken.opened.kind_ne, if_neg hbroken.opened.kind_ne, List.nil_append,
      List.filter_append, filter_codeOffsetsFrom_eq_self (by omega), List.nil_append,
      filter_codeOffsetsFrom_eq_nil]
    rw [Lexeme.byteSize, byteSize_append]
    omega

end SqlClient.Sql
