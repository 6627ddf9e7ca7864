import Mathlib.Data.List.Basic
import Mathlib.Tactic.Common
import SqlClient.Proofs.Text.Encoding
import SqlClient.Sql.Lexeme

/-!
# The grammar of SQL text

What lexemes are made of, said of the octets of a text and without a word on how they are found. A
lexeme starts with an opening, and its kind says which octets close it. Where there is nothing to
close it the lexeme takes all that is left, and an octet that no opening starts at is code. A text
has at most one decomposition into such lexemes.
-/

namespace SqlClient.Sql

open SqlClient.Text (octet)

/-- A lexeme by its octets. -/
structure OctetLexeme where
  kind : LexemeKind
  octets : List UInt8
  deriving DecidableEq

namespace Grammar

/-! ### Delimiters -/

/-- The single quote of literals. -/
def apostrophe : UInt8 := octet '\''

/-- The double quote of identifiers. -/
def quote : UInt8 := octet '"'

def dash : UInt8 := octet '-'

def lineFeed : UInt8 := octet '\n'

def slash : UInt8 := octet '/'

def star : UInt8 := octet '*'

def dollar : UInt8 := octet '$'

def underscore : UInt8 := octet '_'

/-- What opens a comment that nests. -/
def commentOpening : List UInt8 := [slash, star]

/-- What closes a comment that nests. -/
def commentClosing : List UInt8 := [star, slash]

/-- An ASCII letter. -/
def IsLetter (b : UInt8) : Prop :=
  octet 'A' ≤ b ∧ b ≤ octet 'Z' ∨ octet 'a' ≤ b ∧ b ≤ octet 'z'

/-- An ASCII digit. -/
def IsDigit (b : UInt8) : Prop := octet '0' ≤ b ∧ b ≤ octet '9'

/-- A dollar tag: empty, or a letter or underscore and then letters, digits and underscores. -/
def IsTag : List UInt8 → Prop
  | [] => True
  | first :: rest =>
    (IsLetter first ∨ first = underscore) ∧ ∀ b ∈ rest, IsLetter b ∨ IsDigit b ∨ b = underscore

/-- What opens and closes the dollar block with this tag. -/
def fence (tag : List UInt8) : List UInt8 := dollar :: (tag ++ [dollar])

/-! ### Closings

Each relation holds of `u` and `v` if, in the text `u ++ v`, the lexeme that has just been opened
ends with `u`. -/

/-- What may stand between two quotes `q`: octets other than `q`, and pairs of `q`. -/
inductive Quoted (q : UInt8) : List UInt8 → Prop
  | nil : Quoted q []
  | plain {b : UInt8} {body : List UInt8} : b ≠ q → Quoted q body → Quoted q (b :: body)
  | doubled {body : List UInt8} : Quoted q body → Quoted q (q :: q :: body)

/-- A quote closes where no second quote follows. -/
def ClosesQuote (q : UInt8) (u v : List UInt8) : Prop :=
  ∃ body, u = body ++ [q] ∧ Quoted q body ∧ v.head? ≠ some q

/-- A line comment closes with the first line feed. -/
def ClosesLine (u : List UInt8) : Prop :=
  ∃ body, u = body ++ [lineFeed] ∧ lineFeed ∉ body

/-- The body of a comment, in front of `rest`: octets at which no comment opens or closes, and whole
comments. -/
inductive Nested : List UInt8 → List UInt8 → Prop
  | nil {rest : List UInt8} : Nested [] rest
  | plain {b : UInt8} {body rest : List UInt8} :
      ¬ commentOpening <+: b :: (body ++ rest) → ¬ commentClosing <+: b :: (body ++ rest) →
      Nested body rest → Nested (b :: body) rest
  | comment {inner body rest : List UInt8} :
      Nested inner (commentClosing ++ (body ++ rest)) → Nested body rest →
      Nested (commentOpening ++ (inner ++ (commentClosing ++ body))) rest

/-- A comment closes behind a body in which comments are properly nested. -/
def ClosesBlock (u v : List UInt8) : Prop :=
  ∃ body, u = body ++ commentClosing ∧ Nested body (commentClosing ++ v)

/-- A dollar block closes with the leftmost occurrence of what opened it. -/
def ClosesDollar (opening u v : List UInt8) : Prop :=
  ∃ body, u = body ++ opening ∧
    ∀ x y, u ++ v = x ++ (opening ++ y) → body.length ≤ x.length

/-! ### Lexemes -/

/-- What opens a lexeme of each kind. -/
inductive Opening : LexemeKind → List UInt8 → Prop
  | literal : Opening .literal [apostrophe]
  | identifier : Opening .identifier [quote]
  | lineComment : Opening .lineComment [dash, dash]
  | blockComment : Opening .blockComment commentOpening
  | dollarBlock {tag : List UInt8} : IsTag tag → Opening .dollarBlock (fence tag)

/-- What closes a lexeme of each kind that starts with `opening`. -/
def Closes (opening : List UInt8) : LexemeKind → List UInt8 → List UInt8 → Prop
  | .code, _, _ => False
  | .literal, u, v => ClosesQuote apostrophe u v
  | .identifier, u, v => ClosesQuote quote u v
  | .lineComment, u, _ => ClosesLine u
  | .blockComment, u, v => ClosesBlock u v
  | .dollarBlock, u, v => ClosesDollar opening u v

/-- `u` is the first lexeme of the text `u ++ v`. -/
inductive Leads : LexemeKind → List UInt8 → List UInt8 → Prop
  | closed {kind : LexemeKind} {opening u v : List UInt8} :
      Opening kind opening → Closes opening kind u v → Leads kind (opening ++ u) v
  | unclosed {kind : LexemeKind} {opening rest : List UInt8} :
      Opening kind opening → (∀ u v, u ++ v = rest → ¬ Closes opening kind u v) →
      Leads kind (opening ++ rest) []
  | code {b : UInt8} {rest : List UInt8} :
      (∀ kind opening, Opening kind opening → ¬ opening <+: b :: rest) → Leads .code [b] rest

/-- A text and its lexemes from left to right. -/
inductive Decomposes : List UInt8 → List OctetLexeme → Prop
  | nil : Decomposes [] []
  | cons {kind : LexemeKind} {u v : List UInt8} {ls : List OctetLexeme} :
      Leads kind u v → Decomposes v ls → Decomposes (u ++ v) (⟨kind, u⟩ :: ls)

/-- The text that lexemes spell. -/
def spell (ls : List OctetLexeme) : List UInt8 := ls.flatMap (·.octets)

/-! ### One closing at most -/

theorem Quoted.eq_of_append {q : UInt8} {body : List UInt8} (h : Quoted q body) :
    ∀ {body' r r' : List UInt8}, Quoted q body' → r.head? ≠ some q → r'.head? ≠ some q →
      body ++ q :: r = body' ++ q :: r' → body = body' := by
  induction h with
  | nil =>
    intro body' r r' h' hr _ heq
    cases h' with
    | nil => rfl
    | plain hb _ => exact absurd (List.cons.inj heq).1.symm hb
    | doubled _ => exact absurd (by rw [(List.cons.inj heq).2]; rfl) hr
  | plain hb _ ih =>
    intro body' r r' h' hr hr' heq
    cases h' with
    | nil => exact absurd (List.cons.inj heq).1 hb
    | plain _ h' =>
      obtain ⟨rfl, htail⟩ := List.cons.inj heq
      rw [ih h' hr hr' htail]
    | doubled _ => exact absurd (List.cons.inj heq).1 hb
  | doubled _ ih =>
    intro body' r r' h' hr hr' heq
    cases h' with
    | nil => exact absurd (by rw [← (List.cons.inj heq).2]; rfl) hr'
    | plain hb _ => exact absurd (List.cons.inj heq).1.symm hb
    | doubled h' =>
      rw [ih h' hr hr' (List.cons.inj (List.cons.inj heq).2).2]

theorem ClosesQuote.unique {q : UInt8} {u v u' v' : List UInt8} (h : ClosesQuote q u v)
    (h' : ClosesQuote q u' v') (heq : u ++ v = u' ++ v') : u = u' := by
  obtain ⟨body, rfl, hbody, hv⟩ := h
  obtain ⟨body', rfl, hbody', hv'⟩ := h'
  rw [hbody.eq_of_append hbody' hv hv' (by simpa using heq)]

/-- The part in front of the first `a` of a list. -/
theorem eq_of_append_cons {a : UInt8} : ∀ {x x' z z' : List UInt8}, a ∉ x → a ∉ x' →
    x ++ a :: z = x' ++ a :: z' → x = x'
  | [], [], _, _, _, _, _ => rfl
  | [], b :: x', _, _, _, hx', heq => by
    rw [List.nil_append, List.cons_append] at heq
    exact absurd ((List.cons.inj heq).1 ▸ List.mem_cons_self) hx'
  | b :: x, [], _, _, hx, _, heq => by
    rw [List.nil_append, List.cons_append] at heq
    exact absurd ((List.cons.inj heq).1 ▸ List.mem_cons_self) hx
  | b :: x, b' :: x', _, _, hx, hx', heq => by
    obtain ⟨rfl, htail⟩ := List.cons.inj heq
    rw [eq_of_append_cons (List.not_mem_of_not_mem_cons hx) (List.not_mem_of_not_mem_cons hx')
      htail]

theorem ClosesLine.unique {u v u' v' : List UInt8} (h : ClosesLine u) (h' : ClosesLine u')
    (heq : u ++ v = u' ++ v') : u = u' := by
  obtain ⟨body, rfl, hbody⟩ := h
  obtain ⟨body', rfl, hbody'⟩ := h'
  rw [eq_of_append_cons hbody hbody' (by simpa using heq)]

theorem not_opening_of_closing {t : List UInt8} (h : commentClosing <+: t) :
    ¬ commentOpening <+: t := by
  rintro ⟨x, rfl⟩
  obtain ⟨y, hy⟩ := h
  exact absurd (List.cons.inj hy).1 (by decide)

theorem Nested.eq_of_append {body t : List UInt8} (h : Nested body t) :
    ∀ {body' t' : List UInt8}, Nested body' t' → commentClosing <+: t → commentClosing <+: t' →
      body ++ t = body' ++ t' → body = body' := by
  induction h with
  | nil =>
    intro body' t' h' ht _ heq
    cases h' with
    | nil => rfl
    | plain _ hc _ =>
      rw [List.nil_append, List.cons_append] at heq
      exact absurd (heq ▸ ht) hc
    | comment _ _ =>
      exact absurd ⟨_, by simpa using heq.symm⟩ (not_opening_of_closing ht)
  | plain ho hc _ ih =>
    intro body' t' h' ht ht' heq
    cases h' with
    | nil =>
      rw [List.nil_append, List.cons_append] at heq
      exact absurd (heq ▸ ht') hc
    | plain _ _ h' =>
      obtain ⟨rfl, htail⟩ := List.cons.inj heq
      rw [ih h' ht ht' htail]
    | comment _ _ => exact absurd ⟨_, by simpa using heq.symm⟩ ho
  | comment _ _ ihInner ih =>
    intro body' t' h' ht ht' heq
    cases h' with
    | nil => exact absurd ⟨_, by simpa using heq⟩ (not_opening_of_closing ht')
    | plain ho _ _ => exact absurd ⟨_, by simpa using heq⟩ ho
    | comment hinner' h' =>
      simp only [List.append_assoc, List.append_cancel_left_eq] at heq
      have hinner := ihInner hinner' (List.prefix_append _ _) (List.prefix_append _ _) heq
      rw [hinner, List.append_cancel_left_eq, List.append_cancel_left_eq] at heq
      rw [hinner, ih h' ht ht' heq]

theorem ClosesBlock.unique {u v u' v' : List UInt8} (h : ClosesBlock u v)
    (h' : ClosesBlock u' v') (heq : u ++ v = u' ++ v') : u = u' := by
  obtain ⟨body, rfl, hbody⟩ := h
  obtain ⟨body', rfl, hbody'⟩ := h'
  rw [hbody.eq_of_append hbody' (List.prefix_append _ _) (List.prefix_append _ _)
    (by simpa using heq)]

theorem ClosesDollar.unique {opening u v u' v' : List UInt8} (h : ClosesDollar opening u v)
    (h' : ClosesDollar opening u' v') (heq : u ++ v = u' ++ v') : u = u' := by
  obtain ⟨body, rfl, hleft⟩ := h
  obtain ⟨body', rfl, hleft'⟩ := h'
  have hle := hleft body' v' (by rw [heq, List.append_assoc])
  have hge := hleft' body v (by rw [← heq, List.append_assoc])
  simp only [List.append_assoc] at heq
  rw [List.append_inj_left heq (by omega)]

theorem Closes.unique {opening : List UInt8} {kind : LexemeKind} {u v u' v' : List UInt8}
    (h : Closes opening kind u v) (h' : Closes opening kind u' v') (heq : u ++ v = u' ++ v') :
    u = u' := by
  cases kind with
  | code => exact h.elim
  | literal => exact ClosesQuote.unique h h' heq
  | identifier => exact ClosesQuote.unique h h' heq
  | lineComment => exact ClosesLine.unique h h' heq
  | blockComment => exact ClosesBlock.unique h h' heq
  | dollarBlock => exact ClosesDollar.unique h h' heq

/-! ### One decomposition at most -/

/-- The octet that every opening of a kind starts with. -/
def leadOctet : LexemeKind → UInt8
  | .code => 0
  | .literal => apostrophe
  | .identifier => quote
  | .lineComment => dash
  | .blockComment => slash
  | .dollarBlock => dollar

theorem leadOctet_inj {k k' : LexemeKind} (h : leadOctet k = leadOctet k') : k = k' := by
  cases k <;> cases k' <;> first | rfl | exact absurd h (by decide)

theorem Opening.head?_eq {kind : LexemeKind} {opening : List UInt8} (h : Opening kind opening) :
    opening.head? = some (leadOctet kind) := by
  cases h <;> rfl

theorem Opening.not_code {opening : List UInt8} : ¬ Opening .code opening := nofun

theorem dollar_notMem {tag : List UInt8} (h : IsTag tag) : dollar ∉ tag := by
  have hletter : ¬ IsLetter dollar := by unfold IsLetter; decide
  have hdigit : ¬ IsDigit dollar := by unfold IsDigit; decide
  have hunderscore : dollar ≠ underscore := by decide
  cases tag with
  | nil => exact List.not_mem_nil
  | cons first rest =>
    rw [List.mem_cons]
    rintro (heq | hmem)
    · exact (heq ▸ h.1).elim hletter hunderscore
    · exact (h.2 dollar hmem).elim hletter fun h => h.elim hdigit hunderscore

/-- At most one opening starts a text. -/
theorem Opening.unique {k k' : LexemeKind} {o o' t : List UInt8} (h : Opening k o)
    (h' : Opening k' o') (ho : o <+: t) (ho' : o' <+: t) : k = k' ∧ o = o' := by
  obtain ⟨x, rfl⟩ := ho
  obtain ⟨y, hy⟩ := ho'
  have hk : k = k' := by
    have hhead := congrArg List.head? hy
    rw [List.head?_append, List.head?_append, h.head?_eq, h'.head?_eq] at hhead
    exact (leadOctet_inj (Option.some.inj hhead)).symm
  subst hk
  refine ⟨rfl, ?_⟩
  cases h with
  | literal | identifier | lineComment | blockComment => cases h'; rfl
  | dollarBlock htag =>
    cases h' with
    | dollarBlock htag' =>
      rw [eq_of_append_cons (dollar_notMem htag') (dollar_notMem htag) (by simpa [fence] using hy)]

theorem Leads.opening_prefix {kind : LexemeKind} {u v : List UInt8} (h : Leads kind u v)
    (hk : kind ≠ .code) : ∃ opening, Opening kind opening ∧ opening <+: u ++ v := by
  cases h with
  | closed ho _ => exact ⟨_, ho, by rw [List.append_assoc]; exact List.prefix_append _ _⟩
  | unclosed ho _ => exact ⟨_, ho, by rw [List.append_assoc]; exact List.prefix_append _ _⟩
  | code _ => exact absurd rfl hk

theorem Leads.ne_nil {kind : LexemeKind} {u v : List UInt8} (h : Leads kind u v) : u ≠ [] := by
  have hne : ∀ {k o}, Opening k o → o ≠ [] := by
    rintro k o ho rfl
    exact absurd ho.head?_eq (by simp)
  cases h with
  | closed ho _ => exact fun h => hne ho (List.append_eq_nil_iff.mp h).1
  | unclosed ho _ => exact fun h => hne ho (List.append_eq_nil_iff.mp h).1
  | code _ => exact List.cons_ne_nil _ _

/-- A text has at most one first lexeme. -/
theorem Leads.unique {k k' : LexemeKind} {u v u' v' : List UInt8} (h : Leads k u v)
    (h' : Leads k' u' v') (heq : u ++ v = u' ++ v') : k = k' ∧ u = u' := by
  cases h with
  | @closed _ o w _ ho hc =>
    cases h' with
    | @closed _ o' w' _ ho' hc' =>
      obtain ⟨rfl, rfl⟩ := ho.unique ho' ⟨w ++ v, by rw [← List.append_assoc]⟩
        ⟨w' ++ v', by rw [← List.append_assoc, heq]⟩
      simp only [List.append_assoc, List.append_cancel_left_eq] at heq
      exact ⟨rfl, by rw [hc.unique hc' heq]⟩
    | @unclosed _ o' w' ho' hnone =>
      obtain ⟨rfl, rfl⟩ := ho.unique ho' ⟨w ++ v, by rw [← List.append_assoc]⟩
        ⟨w' ++ [], by rw [← List.append_assoc, heq]⟩
      simp only [List.append_assoc, List.append_cancel_left_eq, List.append_nil] at heq
      exact absurd hc (hnone _ _ heq)
    | code hnone =>
      exact absurd ⟨w ++ v, by rw [← List.append_assoc, heq]; rfl⟩ (hnone _ _ ho)
  | @unclosed _ o w ho hnone =>
    cases h' with
    | @closed _ o' w' _ ho' hc' =>
      obtain ⟨rfl, rfl⟩ := ho.unique ho' ⟨w ++ [], by rw [← List.append_assoc]⟩
        ⟨w' ++ v', by rw [← List.append_assoc, heq]⟩
      simp only [List.append_assoc, List.append_cancel_left_eq, List.append_nil] at heq
      exact absurd hc' (hnone _ _ heq.symm)
    | @unclosed _ o' w' ho' _ =>
      obtain ⟨rfl, rfl⟩ := ho.unique ho' ⟨w ++ [], by rw [← List.append_assoc]⟩
        ⟨w' ++ [], by rw [← List.append_assoc, heq]⟩
      exact ⟨rfl, by simpa using heq⟩
    | code hnone' =>
      exact absurd ⟨w ++ [], by rw [← List.append_assoc, heq]; rfl⟩ (hnone' _ _ ho)
  | code hnone =>
    rcases eq_or_ne k' .code with rfl | hk'
    · cases h' with
      | closed ho _ => exact absurd ho Opening.not_code
      | unclosed ho _ => exact absurd ho Opening.not_code
      | code _ => exact ⟨rfl, by rw [(List.cons.inj heq).1]⟩
    · obtain ⟨o, ho, hpre⟩ := h'.opening_prefix hk'
      rw [List.singleton_append] at heq
      exact absurd (heq ▸ hpre) (hnone _ _ ho)

/-- A text has at most one decomposition. -/
theorem Decomposes.unique {t : List UInt8} {ls : List OctetLexeme} (h : Decomposes t ls) :
    ∀ {ls' : List OctetLexeme}, Decomposes t ls' → ls = ls' := by
  induction h with
  | nil =>
    intro ls' h'
    generalize ht : ([] : List UInt8) = t at h'
    cases h' with
    | nil => rfl
    | cons hl _ => exact absurd (List.append_eq_nil_iff.mp ht.symm).1 hl.ne_nil
  | @cons kind u v ls hl _ ih =>
    intro ls' h'
    generalize ht : u ++ v = t at h'
    cases h' with
    | nil => exact absurd (List.append_eq_nil_iff.mp ht).1 hl.ne_nil
    | cons hl' hd' =>
      obtain ⟨rfl, rfl⟩ := hl.unique hl' ht
      rw [List.append_cancel_left_eq] at ht
      subst ht
      rw [ih hd']

end Grammar

end SqlClient.Sql
