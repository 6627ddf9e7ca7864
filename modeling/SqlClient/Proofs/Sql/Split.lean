import SqlClient.Proofs.Sql.Cut
import SqlClient.Proofs.Text.Trim

/-!
# Statements without their script

The semicolons that are code cut a script into its pieces, and its statements are the pieces,
trimmed. A statement has the code that it has in its script, so it is its own only statement, and
the statements can be joined and cut again.
-/

namespace SqlClient.Sql

open SqlClient.Text

/-! ### Cutting at semicolons -/

/-- The offsets of the semicolons that are code. -/
def semicolons (sql : String) : List Nat :=
  (codeOffsets sql).filter fun i => (toUtf8 sql)[i]? = some (octet ';')

/-- The offsets of the separators between texts that are joined by one octet, if the first text
starts at `start`. -/
def joints (start : Nat) : List (List Char) → List Nat
  | [] => []
  | [_] => []
  | p :: q :: ps => (start + byteSize p) :: joints (start + byteSize p + 1) (q :: ps)

/-- The texts between the semicolons of a script that are code. -/
structure Cuts (sql : String) (ps : List (List Char)) : Prop where
  ne_nil : ps ≠ []
  join : [';'].intercalate ps = sql.toList
  joints_eq : joints 0 ps = semicolons sql

/-- What stands in front of the text that trimming leaves of `p`, if `p` stands behind `before`. -/
def front (before : List (List Char)) (p : List Char) : List Char :=
  before.flatMap (· ++ [';']) ++ p.takeWhile isBlank

/-- The offsets from `start` to `stop`, counted from `start` on. -/
def between (start stop : Nat) (offsets : List Nat) : List Nat :=
  (offsets.filter fun i => start ≤ i ∧ i < stop).map (· - start)

theorem byteSize_eq_zero {cs : List Char} (h : byteSize cs = 0) : cs = [] := by
  cases cs with
  | nil => rfl
  | cons c cs =>
    have hpos := c.utf8Size_pos
    rw [byteSize_cons] at h
    omega

/-- Of a text there is one beginning of each size. -/
theorem eq_of_byteSize_eq {as bs cs ds : List Char} (h : as ++ cs = bs ++ ds)
    (hsize : byteSize as = byteSize bs) : as = bs := by
  rcases List.append_eq_append_iff.mp h with ⟨es, rfl, -⟩ | ⟨es, rfl, -⟩
  all_goals
    rw [byteSize_append] at hsize
    have hnil : es = [] := byteSize_eq_zero (by omega)
    rw [hnil, List.append_nil]

theorem eq_of_joints_eq {start : Nat} {ps qs : List (List Char)} (hp : ps ≠ []) (hq : qs ≠ [])
    (hjoin : [';'].intercalate ps = [';'].intercalate qs) (h : joints start ps = joints start qs) :
    ps = qs := by
  induction ps generalizing start qs with
  | nil => exact absurd rfl hp
  | cons p ps ih =>
    match ps, qs, hq with
    | [], [q], _ =>
      rw [List.intercalate_singleton, List.intercalate_singleton] at hjoin
      rw [hjoin]
    | [], _ :: _ :: _, _ => cases h
    | _ :: _, [_], _ => cases h
    | p' :: ps, q :: q' :: qs, _ =>
      rw [joints, joints] at h
      obtain ⟨hsize, h⟩ := List.cons.inj h
      rw [List.intercalate_cons_cons, List.intercalate_cons_cons, List.append_assoc,
        List.append_assoc] at hjoin
      obtain rfl := eq_of_byteSize_eq hjoin (by omega)
      rw [List.append_cancel_left_eq, List.append_cancel_left_eq] at hjoin
      rw [ih (by simp) (by simp) hjoin h]

/-- A script can be cut in one way only. -/
theorem Cuts.unique {sql : String} {ps qs : List (List Char)} (hp : Cuts sql ps)
    (hq : Cuts sql qs) : ps = qs :=
  eq_of_joints_eq hp.ne_nil hq.ne_nil (hp.join.trans hq.join.symm)
    (hp.joints_eq.trans hq.joints_eq.symm)

/-! ### The pieces -/

/-- Lexemes none of which is a semicolon that is code. -/
def Plain (ls : List Lexeme) : Prop := ∀ l ∈ ls, l.isCodeChar ';' = false

theorem isCodeChar_iff {l : Lexeme} {c : Char} : l.isCodeChar c = true ↔ l = ⟨.code, [c]⟩ := by
  obtain ⟨kind, chars⟩ := l
  simp [Lexeme.isCodeChar]

theorem pieces_cons_semicolon (ls : List Lexeme) :
    pieces (⟨.code, [';']⟩ :: ls) = [] :: pieces ls := by
  rw [pieces, if_pos (isCodeChar_iff.mpr rfl)]

theorem pieces_cons_of_ne {l : Lexeme} (h : l.isCodeChar ';' = false) (ls : List Lexeme) :
    ∃ p ps, pieces ls = p :: ps ∧ pieces (l :: ls) = (l :: p) :: ps := by
  obtain ⟨p, ps, hps⟩ := List.exists_cons_of_ne_nil (pieces_ne_nil ls)
  refine ⟨p, ps, hps, ?_⟩
  rw [pieces, if_neg (by rw [h]; exact Bool.false_ne_true), hps]

theorem pieces_of_plain {ls : List Lexeme} (h : Plain ls) : pieces ls = [ls] := by
  induction ls with
  | nil => rfl
  | cons l ls ih =>
    obtain ⟨hl, hls⟩ := List.forall_mem_cons.mp h
    obtain ⟨p, ps, hps, hcons⟩ := pieces_cons_of_ne hl ls
    rw [ih hls] at hps
    obtain ⟨rfl, rfl⟩ := List.cons.inj hps
    exact hcons

theorem pieces_append_semicolon {first : List Lexeme} (h : Plain first) (later : List Lexeme) :
    pieces (first ++ ⟨.code, [';']⟩ :: later) = first :: pieces later := by
  induction first with
  | nil => exact pieces_cons_semicolon later
  | cons l first ih =>
    obtain ⟨hl, hfirst⟩ := List.forall_mem_cons.mp h
    obtain ⟨p, ps, hps, hcons⟩ := pieces_cons_of_ne hl (first ++ ⟨.code, [';']⟩ :: later)
    rw [ih hfirst] at hps
    obtain ⟨rfl, rfl⟩ := List.cons.inj hps
    exact hcons

/-- Lexemes hold no semicolon that is code, or there is a first one. -/
theorem plain_or_semicolon (ls : List Lexeme) :
    Plain ls ∨ ∃ first later, Plain first ∧ ls = first ++ ⟨.code, [';']⟩ :: later := by
  induction ls with
  | nil => exact .inl nofun
  | cons l ls ih =>
    cases hl : l.isCodeChar ';' with
    | true => exact .inr ⟨[], ls, nofun, by rw [isCodeChar_iff.mp hl, List.nil_append]⟩
    | false =>
      rcases ih with hplain | ⟨first, later, hplain, rfl⟩
      · exact .inl (List.forall_mem_cons.mpr ⟨hl, hplain⟩)
      · exact .inr ⟨l :: first, later, List.forall_mem_cons.mpr ⟨hl, hplain⟩, rfl⟩

/-- The pieces joined by semicolons are the text. -/
theorem intercalate_pieces (ls : List Lexeme) :
    [';'].intercalate ((pieces ls).map spell) = spell ls := by
  induction ls with
  | nil => rfl
  | cons l ls ih =>
    cases hl : l.isCodeChar ';' with
    | true =>
      have hne : (pieces ls).map spell ≠ [] := by simpa using pieces_ne_nil ls
      rw [isCodeChar_iff.mp hl, pieces_cons_semicolon, List.map_cons,
        List.intercalate_cons_of_ne_nil hne, ih]
      rfl
    | false =>
      obtain ⟨p, ps, hps, hcons⟩ := pieces_cons_of_ne hl ls
      rw [hps] at ih
      rw [hcons, spell_cons, ← ih]
      cases ps with
      | nil => simp
      | cons q ps => simp [List.intercalate_cons_cons]

/-- Where a piece stands among the lexemes. -/
theorem exists_of_pieces_eq {ls : List Lexeme} {before after : List (List Lexeme)}
    {p : List Lexeme} (h : pieces ls = before ++ p :: after) :
    ∃ earlier later, ls = earlier ++ (p ++ later) ∧ Plain p ∧
      spell earlier = before.flatMap (spell · ++ [';']) ∧
      (later = [] ∨ ∃ rest, later = ⟨.code, [';']⟩ :: rest) := by
  induction before generalizing ls with
  | nil =>
    rcases plain_or_semicolon ls with hplain | ⟨first, later, hplain, rfl⟩
    · rw [pieces_of_plain hplain] at h
      obtain ⟨rfl, -⟩ := List.cons.inj h
      exact ⟨[], [], by simp, hplain, rfl, .inl rfl⟩
    · rw [pieces_append_semicolon hplain] at h
      obtain ⟨rfl, -⟩ := List.cons.inj h
      exact ⟨[], _, rfl, hplain, rfl, .inr ⟨later, rfl⟩⟩
  | cons q before ih =>
    rcases plain_or_semicolon ls with hplain | ⟨first, later, hplain, rfl⟩
    · rw [pieces_of_plain hplain] at h
      have hnil := (List.cons.inj h).2
      cases before <;> cases hnil
    · rw [pieces_append_semicolon hplain] at h
      obtain ⟨rfl, htail⟩ := List.cons.inj h
      obtain ⟨earlier, rest, rfl, hp, hspell, hrest⟩ := ih htail
      refine ⟨first ++ ⟨.code, [';']⟩ :: earlier, rest, ?_, hp, ?_, hrest⟩
      · rw [List.append_assoc, List.cons_append]
      · rw [spell_append, spell_cons, hspell, List.flatMap_cons, List.append_assoc]

/-! ### Where the semicolons stand -/

theorem joints_append_cons (start : Nat) (cs p : List Char) (ps : List (List Char)) :
    joints start ((cs ++ p) :: ps) = joints (start + byteSize cs) (p :: ps) := by
  cases ps with
  | nil => rfl
  | cons q ps => rw [joints, joints, byteSize_append, ← Nat.add_assoc]

theorem chars_of_mem_lexemes {cs : List Char} :
    ∀ l ∈ lexemes cs, l.kind = .code → ∃ c, l.chars = [c] := by
  fun_induction lexemes cs with
  | case1 => exact fun l hl => absurd hl List.not_mem_nil
  | case2 c cs ih =>
    refine List.forall_mem_cons.mpr ⟨fun hcode => ⟨c, ?_⟩, ih⟩
    have hzero : (opening c cs).2 = 0 := Grammar.opening_snd_of_code hcode
    rw [hzero, List.take_zero]

theorem mem_of_getElem?_append {pre w post : List UInt8} {i : Nat} {b : UInt8}
    (hi : i ∈ List.range' pre.length w.length) (h : (pre ++ (w ++ post))[i]? = some b) : b ∈ w := by
  rw [List.mem_range'_1] at hi
  rw [List.getElem?_append_right hi.1, List.getElem?_append_left (by omega)] at h
  exact List.mem_of_getElem? h

/-- The octet of a semicolon stands in code only where the semicolon does. -/
theorem filter_semicolon {l : Lexeme} (hcode : l.kind = .code → ∃ c, l.chars = [c])
    (pre post : List UInt8) :
    (if l.kind = .code then List.range' pre.length l.byteSize else []).filter
        (fun i => (pre ++ (encode l.chars ++ post))[i]? = some (octet ';')) =
      if l.isCodeChar ';' then [pre.length] else [] := by
  by_cases hl : l.isCodeChar ';' = true
  · obtain rfl := isCodeChar_iff.mp hl
    have hencode : encode [';'] = [octet ';'] := by decide
    rw [if_pos rfl, if_pos hl, hencode]
    have hone : (⟨.code, [';']⟩ : Lexeme).byteSize = 1 := rfl
    rw [hone, List.range'_one]
    simp
  · rw [if_neg hl, List.filter_eq_nil_iff]
    intro i hi hoctet
    split at hi
    next hk =>
      obtain ⟨c, hchars⟩ := hcode hk
      rw [Lexeme.byteSize, Grammar.byteSize_eq_length] at hi
      have hmem := mem_of_getElem?_append hi (of_decide_eq_true hoctet)
      rw [hchars, encode_cons, encode_nil, List.append_nil,
        octet_mem_utf8EncodeChar (by decide)] at hmem
      refine hl (isCodeChar_iff.mpr ?_)
      obtain ⟨kind, chars⟩ := l
      rw [← hmem, ← hchars, ← hk]
    next => cases hi

/-- The joints of the pieces are the semicolons that are code. -/
theorem joints_pieces {ls : List Lexeme} (hcode : ∀ l ∈ ls, l.kind = .code → ∃ c, l.chars = [c])
    (pre : List UInt8) : joints pre.length ((pieces ls).map spell) =
      (codeOffsetsFrom pre.length ls).filter
        fun i => (pre ++ encode (spell ls))[i]? = some (octet ';') := by
  -- `pre` holds the octets of the lexemes that have been passed
  induction ls generalizing pre with
  | nil => rfl
  | cons l ls ih =>
    obtain ⟨hl, hls⟩ := List.forall_mem_cons.mp hcode
    have hrest := ih hls (pre ++ encode l.chars)
    rw [List.length_append, ← Grammar.byteSize_eq_length, List.append_assoc] at hrest
    rw [codeOffsetsFrom, List.filter_append, spell_cons, encode_append, filter_semicolon hl,
      Lexeme.byteSize, ← hrest]
    cases hsemi : l.isCodeChar ';' with
    | true =>
      obtain ⟨p, ps, hps⟩ := List.exists_cons_of_ne_nil (pieces_ne_nil ls)
      rw [isCodeChar_iff.mp hsemi, pieces_cons_semicolon, hps]
      rfl
    | false =>
      obtain ⟨p, ps, hps, hcons⟩ := pieces_cons_of_ne hsemi ls
      rw [hcons, hps, List.map_cons, List.map_cons, spell_cons, joints_append_cons]
      rfl

theorem cuts_pieces (sql : String) : Cuts sql ((pieces (lexemes sql.toList)).map spell) where
  ne_nil := by simpa using pieces_ne_nil _
  join := by rw [intercalate_pieces, spell_lexemes]
  joints_eq := by
    have h := joints_pieces (@chars_of_mem_lexemes sql.toList) []
    rw [spell_lexemes, List.nil_append, ← toUtf8_eq_encode] at h
    exact h

/-! ### A piece without the blanks around it -/

theorem spell_map_code (cs : List Char) : spell (cs.map (⟨.code, [·]⟩)) = cs := by
  induction cs with
  | nil => rfl
  | cons c cs ih => exact congrArg (c :: ·) ih

/-- The lexemes of a piece without the blanks in front of it. -/
theorem exists_trimmed_lexemes {p later : List Lexeme} {rest : List Char}
    (h : lexemes (spell p ++ rest) = p ++ later) :
    ∃ first trailing, (∀ c ∈ trailing, isBlank c = true) ∧
      p = ((spell p).takeWhile isBlank).map (⟨.code, [·]⟩) ++ first ∧
      spell first = trimChars (spell p) ++ trailing ∧
      lexemes (trimChars (spell p) ++ (trailing ++ rest)) = first ++ later := by
  obtain ⟨trailing, htrailing, hspell⟩ := exists_trimChars_append (spell p)
  have hleading : ∀ c ∈ (spell p).takeWhile isBlank, isBlank c = true :=
    fun c hc => List.mem_takeWhile_imp hc
  generalize (spell p).takeWhile isBlank = leading at hspell hleading ⊢
  generalize trimChars (spell p) = core at hspell ⊢
  rw [← hspell, List.append_assoc, List.append_assoc, lexemes_blanks_append hleading] at h
  have hlength := congrArg List.length hspell
  rw [List.length_append] at hlength
  obtain ⟨first, hfirst⟩ : leading.map (⟨.code, [·]⟩) <+: p := by
    refine prefix_of_length_le h (by simp) ?_
    rw [spell_map_code]
    omega
  refine ⟨first, trailing, htrailing, hfirst.symm, ?_, ?_⟩
  · rw [← hfirst, spell_append, spell_map_code, List.append_cancel_left_eq] at hspell
    exact hspell.symm
  · rwa [← hfirst, List.append_assoc, List.append_cancel_left_eq] at h

/-- Code that stands in front of a blank or a semicolon is code on its own. -/
theorem codeOffsetsFrom_eq_between {cs core rest : List Char} {earlier : List Lexeme}
    (hrest : Apart rest) (h : lexemes cs = earlier ++ lexemes (core ++ rest)) :
    codeOffsetsFrom 0 (lexemes core) =
      between (byteSize (spell earlier)) (byteSize (spell earlier) + byteSize core)
        (codeOffsetsFrom 0 (lexemes cs)) := by
  have hlt : ∀ i ∈ codeOffsetsFrom 0 earlier, i < byteSize (spell earlier) := fun i hi => by
    have := bounds_of_mem_codeOffsetsFrom hi
    omega
  rw [h, codeOffsetsFrom_append, Nat.zero_add, between]
  generalize byteSize (spell earlier) = start at hlt ⊢
  have hearlier : (codeOffsetsFrom 0 earlier).filter
      (fun i => start ≤ i ∧ i < start + byteSize core) = [] := by
    refine List.filter_eq_nil_iff.mpr fun i hi => ?_
    have := hlt i hi
    rw [decide_eq_true_eq]
    omega
  have hcore : (codeOffsetsFrom start (lexemes (core ++ rest))).filter
      (fun i => start ≤ i ∧ i < start + byteSize core) = codeOffsetsFrom start (lexemes core) := by
    rw [codeOffsetsFrom_lexemes_eq_filter hrest start core]
    refine List.filter_congr fun i hi => ?_
    rw [decide_eq_decide]
    exact and_iff_right (bounds_of_mem_codeOffsetsFrom hi).1
  have hshift := codeOffsetsFrom_add 0 start (lexemes core)
  rw [Nat.zero_add] at hshift
  rw [List.filter_append, hearlier, hcore, List.nil_append, hshift, List.map_map]
  refine (List.map_id'' (fun i => ?_) _).symm
  exact Nat.add_sub_cancel i start

section Statement

variable {cs trailing rest : List Char} {p first later : List Lexeme}

/-- A text that has no semicolon as code where it stands has none on its own. -/
theorem plain_lexemes (hrest : Apart rest) (hsplit : lexemes (cs ++ rest) = first ++ later)
    (hle : cs.length ≤ (spell first).length) (hplain : Plain first) : Plain (lexemes cs) := by
  intro l hl
  rw [← Bool.not_eq_true]
  intro hsemi
  have hcode : l.kind = .code := by rw [isCodeChar_iff.mp hsemi]
  rw [hplain l (mem_of_mem_lexemes hrest hsplit hle hl hcode)] at hsemi
  cases hsemi

theorem plain_lexemes_trimChars (hrest : Apart rest)
    (hsplit : lexemes (spell p ++ rest) = p ++ later) (hplain : Plain p) :
    Plain (lexemes (trimChars (spell p))) := by
  obtain ⟨first, trailing, htrailing, hp, hfirst, hcore⟩ := exists_trimmed_lexemes hsplit
  refine plain_lexemes (.blanks_append htrailing hrest) hcore ?_ fun l hl => hplain l ?_
  · rw [hfirst, List.length_append]
    exact Nat.le_add_right _ _
  · rw [hp]
    exact List.mem_append_right _ hl

/-- Where the text that trimming leaves of a piece stands. -/
theorem exists_of_pieces_lexemes_eq {before after : List (List Lexeme)}
    (h : pieces (lexemes cs) = before ++ p :: after) :
    ∃ earlier rest, Apart rest ∧ spell earlier = front (before.map spell) (spell p) ∧
      lexemes cs = earlier ++ lexemes (trimChars (spell p) ++ rest) ∧
      Plain (lexemes (trimChars (spell p))) := by
  obtain ⟨earlier, later, hcs, hplain, hearlier, hlater⟩ := exists_of_pieces_eq h
  have hsplit := lexemes_spell_of_append hcs
  rw [spell_append] at hsplit
  have hapart : Apart (spell later) := by
    rcases hlater with rfl | ⟨rest, rfl⟩
    · exact .nil
    · exact .cons (.inr rfl) (spell rest)
  obtain ⟨first, trailing, htrailing, hp, -, hcore⟩ := exists_trimmed_lexemes hsplit
  refine ⟨earlier ++ ((spell p).takeWhile isBlank).map (⟨.code, [·]⟩), trailing ++ spell later,
    .blanks_append htrailing hapart, ?_, ?_, plain_lexemes_trimChars hapart hsplit hplain⟩
  · rw [spell_append, spell_map_code, hearlier, front, List.flatMap_map]
  · rw [hcore, hcs, List.append_assoc, ← List.append_assoc _ first, ← hp]

/-- A statement before a semicolon ends before any semicolon on the next line. -/
theorem lexemes_rejoined (hsplit : lexemes (spell p ++ ';' :: rest) = p ++ later)
    (hplain : Plain p) (more : List Char) :
    ∃ ls, Plain ls ∧ spell ls = trimChars (spell p) ++ ['\n'] ∧
      lexemes (trimChars (spell p) ++ '\n' :: ';' :: more) =
        ls ++ ⟨.code, [';']⟩ :: lexemes more := by
  have hsemi := lexemes_cons_of_apart (.inr rfl) more
  have hlineEnd : IsApart '\n' := .inl (by decide)
  have hcore := plain_lexemes_trimChars (.cons (.inr rfl) rest) hsplit hplain
  obtain ⟨first, trailing, htrailing, -, hfirst, hcut⟩ := exists_trimmed_lexemes hsplit
  generalize trimChars (spell p) = core at *
  rcases whole_or_broken core with hwhole | ⟨before, kind, chars, tail, hbroken⟩
  · refine ⟨lexemes core ++ [⟨.code, ['\n']⟩], ?_, ?_, ?_⟩
    · exact List.forall_mem_append.mpr ⟨hcore, List.forall_mem_singleton.mpr rfl⟩
    · rw [spell_append, spell_lexemes]
      rfl
    · rw [hwhole _ (.cons hlineEnd _), lexemes_cons_of_apart hlineEnd, hsemi, List.append_assoc]
      rfl
  · -- only a line comment has let the semicolon behind it be code, once trimming left it open
    obtain rfl := hbroken.kind_eq htrailing hfirst hcut
    rw [hbroken.lexemes_eq] at hcore
    refine ⟨before ++ [⟨.lineComment, chars ++ ['\n']⟩], ?_, ?_, ?_⟩
    · have hbefore := (List.forall_mem_append.mp hcore).1
      exact List.forall_mem_append.mpr ⟨hbefore, List.forall_mem_singleton.mpr rfl⟩
    · rw [spell_append, spell_cons, spell_nil, List.append_nil, ← List.append_assoc,
        hbroken.spell_eq]
    · rw [hbroken.lexemes_lineEnd, hsemi, List.append_assoc]
      rfl

end Statement

/-! ### The statements of a script -/

/-- The statements as characters. -/
def fragments (cs : List Char) : List (List Char) :=
  ((pieces (lexemes cs)).map fun p => trimChars (spell p)).filter (!·.isEmpty)

theorem statements_eq (sql : String) : statements sql = (fragments sql.toList).map String.ofList :=
  rfl

theorem fragments_of_plain {cs : List Char} (h : Plain (lexemes cs)) :
    fragments cs = [trimChars cs].filter (!·.isEmpty) := by
  rw [fragments, pieces_of_plain h, List.map_singleton, spell_lexemes]

theorem fragments_of_semicolon {cs more : List Char} {first : List Lexeme} (hplain : Plain first)
    (h : lexemes cs = first ++ ⟨.code, [';']⟩ :: lexemes more) :
    fragments cs = [trimChars (spell first)].filter (!·.isEmpty) ++ fragments more := by
  rw [fragments, h, pieces_append_semicolon hplain, List.map_cons, ← List.singleton_append,
    List.filter_append]
  rfl

theorem filter_singleton_trimChars {cs : List Char} (h : trimChars cs ≠ []) :
    [trimChars cs].filter (!·.isEmpty) = [trimChars cs] := by
  simp [h]

/-- A statement is the only statement of itself. -/
theorem fragments_trimChars {cs : List Char} (hplain : Plain (lexemes (trimChars cs)))
    (hne : trimChars cs ≠ []) : fragments (trimChars cs) = [trimChars cs] := by
  rw [fragments_of_plain hplain, trimChars_trimChars, filter_singleton_trimChars hne]

theorem fragments_lineEnd_cons (cs : List Char) : fragments ('\n' :: cs) = fragments cs := by
  have hblank : isBlank '\n' = true := by decide
  obtain ⟨p, ps, hps, hcons⟩ := pieces_cons_of_ne (l := ⟨.code, ['\n']⟩) rfl (lexemes cs)
  have htrim : trimChars ('\n' :: spell p) = trimChars (spell p) :=
    trimChars_blanks_append (List.forall_mem_singleton.mpr hblank) (spell p)
  rw [fragments, lexemes_cons_of_apart (.inl hblank), hcons, fragments, hps, List.map_cons,
    List.map_cons, spell_cons, List.singleton_append, htrim]

theorem fragments_rejoined {p later : List Lexeme} {rest : List Char}
    (hsplit : lexemes (spell p ++ ';' :: rest) = p ++ later) (hplain : Plain p)
    (hne : trimChars (spell p) ≠ []) (more : List Char) :
    fragments (trimChars (spell p) ++ '\n' :: ';' :: more) =
      trimChars (spell p) :: fragments more := by
  obtain ⟨ls, hls, hspell, hlexemes⟩ := lexemes_rejoined hsplit hplain more
  have htrim : trimChars (spell ls) = trimChars (spell p) := by
    rw [hspell, trimChars_append_blanks (List.forall_mem_singleton.mpr (by decide)),
      trimChars_trimChars]
  rw [fragments_of_semicolon hls hlexemes, htrim, filter_singleton_trimChars hne]
  rfl

theorem fragments_nil : fragments [] = [] := by
  have hnil : lexemes [] = [] := lexemes.eq_1
  rw [fragments, hnil]
  rfl

/-- A text holds no semicolon as code, or it is cut at the first one. -/
theorem plain_or_cut (cs : List Char) : Plain (lexemes cs) ∨ ∃ first more, Plain first ∧
    spell first ++ ';' :: more = cs ∧ lexemes cs = first ++ ⟨.code, [';']⟩ :: lexemes more := by
  rcases plain_or_semicolon (lexemes cs) with hplain | ⟨first, later, hplain, hsplit⟩
  · exact .inl hplain
  · refine .inr ⟨first, spell later, hplain, ?_, ?_⟩
    · rw [← spell_lexemes cs, hsplit, spell_append, spell_cons]
      rfl
    · have hlater : lexemes cs = (first ++ [⟨.code, [';']⟩]) ++ later := by
        rw [hsplit, List.append_assoc]
        rfl
      rw [lexemes_spell_of_append hlater, hsplit]

/-- Joined by semicolons on lines of their own, the statements of a script are a script with the
same statements. -/
theorem fragments_intercalate (cs : List Char) :
    fragments (['\n', ';', '\n'].intercalate (fragments cs)) = fragments cs := by
  -- on the text behind the first semicolon
  induction hn : cs.length using Nat.strongRecOn generalizing cs with
  | ind n ih =>
    rcases plain_or_cut cs with hplain | ⟨first, more, hplain, rfl, hsplit⟩
    · have hcore : Plain (lexemes (trimChars cs)) := by
        have h := @plain_lexemes_trimChars [] (lexemes cs) [] .nil
        rw [spell_lexemes, List.append_nil, List.append_nil] at h
        exact h rfl hplain
      rw [fragments_of_plain hplain]
      by_cases hne : trimChars cs = []
      · rw [hne]
        exact fragments_nil
      · rw [filter_singleton_trimChars hne, List.intercalate_singleton]
        exact fragments_trimChars hcore hne
    · have hlt : more.length < n := by
        rw [← hn, List.length_append, List.length_cons]
        omega
      have hmore := ih more.length hlt more rfl
      rw [fragments_of_semicolon hplain hsplit]
      by_cases hne : trimChars (spell first) = []
      · rw [hne]
        exact hmore
      · rw [filter_singleton_trimChars hne, List.singleton_append]
        cases hfragments : fragments more with
        | nil =>
          rw [List.intercalate_singleton]
          refine fragments_trimChars ?_ hne
          exact plain_lexemes_trimChars (.cons (.inr rfl) more) hsplit hplain
        | cons f fs =>
          rw [hfragments] at hmore
          rw [List.intercalate_cons_cons, List.append_assoc, List.cons_append, List.cons_append,
            fragments_rejoined hsplit hplain hne, List.singleton_append, fragments_lineEnd_cons,
            hmore]

theorem statements_intercalate (sql : String) :
    statements ("\n;\n".intercalate (statements sql)) = statements sql := by
  have htexts : ((fragments sql.toList).map String.ofList).map String.toList =
      fragments sql.toList := by
    rw [List.map_map]
    exact List.map_id'' (fun _ => String.toList_ofList) _
  rw [statements_eq sql, statements_eq, String.toList_intercalate, htexts]
  exact congrArg (List.map String.ofList) (fragments_intercalate sql.toList)

/-- A script is cut in one way into the texts between its semicolons that are code, and its
statements are these texts trimmed, without the blank ones. A statement that stands from one offset
to another has the code that the script has between them, and it is its own only statement. Joined
by semicolons on lines of their own, the statements are the statements of the joined text. -/
theorem statements_context_free (sql : String) :
    ∃ ps, Cuts sql ps ∧ (∀ qs, Cuts sql qs → qs = ps) ∧
      statements sql = ((ps.map trimChars).filter (!·.isEmpty)).map String.ofList ∧
      (∀ before p after, ps = before ++ p :: after → trimChars p ≠ [] →
        front before p ++ trimChars p <+: sql.toList ∧
        codeOffsets (.ofList (trimChars p)) =
          between (byteSize (front before p)) (byteSize (front before p) + byteSize (trimChars p))
            (codeOffsets sql) ∧
        statements (.ofList (trimChars p)) = [.ofList (trimChars p)]) ∧
      statements ("\n;\n".intercalate (statements sql)) = statements sql := by
  have hcuts := cuts_pieces sql
  refine ⟨_, hcuts, fun qs h => h.unique hcuts, ?_, ?_, statements_intercalate sql⟩
  · rw [List.map_map]
    rfl
  · intro before p after hps hne
    obtain ⟨before, tail, hpieces, rfl, htail⟩ := List.map_eq_append_iff.mp hps
    obtain ⟨p, after, rfl, rfl, rfl⟩ := List.map_eq_cons_iff.mp htail
    obtain ⟨earlier, rest, hrest, hearlier, hsplit, hplain⟩ := exists_of_pieces_lexemes_eq hpieces
    refine ⟨⟨rest, ?_⟩, ?_, ?_⟩
    · rw [← hearlier, List.append_assoc, ← spell_lexemes (trimChars (spell p) ++ rest),
        ← spell_append, ← hsplit, spell_lexemes]
    · rw [codeOffsets, String.toList_ofList, ← hearlier]
      exact codeOffsetsFrom_eq_between hrest hsplit
    · rw [statements_eq, String.toList_ofList, fragments_trimChars hplain hne]
      rfl

/-- The semicolons of a comment and of a literal cut nothing, and a comment may end a statement. -/
example : statements "a -- x;\n; ;'b;'" = ["a -- x;", "'b;'"] := by cbv

end SqlClient.Sql
