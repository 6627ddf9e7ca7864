import Mathlib.Data.List.Basic
import Mathlib.Tactic.Common
import SqlClient.Proofs.Sql.Grammar

/-!
# Where lexemes end

The extents that the lexer counts in characters are those that the grammar describes in octets: a
lexeme that has a closing ends with it, and one that has none reaches to the end of the text.
-/

namespace SqlClient.Sql.Grammar

open SqlClient.Text

/-- `n` characters of `cs` are what `P` takes of it, or `P` takes nothing of it and `n` reaches to
its end. -/
def EndsAt (P : List UInt8 → List UInt8 → Prop) (cs : List Char) (n : Nat) : Prop :=
  P (encode (cs.take n)) (encode (cs.drop n)) ∨
    cs.length ≤ n ∧ ∀ u v, u ++ v = encode cs → ¬ P u v

/-- Characters in front of a text that the closing cannot start in only add to the extent. -/
theorem EndsAt.prepend {P P' : List UInt8 → List UInt8 → Prop} (ds : List Char) {cs : List Char}
    {n : Nat}
    (hiff : ∀ u v, u ++ v = encode cs → (P' (encode ds ++ u) v ↔ P u v))
    (hpre : ∀ u v, u ++ v = encode ds ++ encode cs → P' u v → encode ds <+: u)
    (h : EndsAt P cs n) : EndsAt P' (ds ++ cs) (ds.length + n) := by
  rcases h with hP | ⟨hn, hnone⟩
  · left
    rw [List.take_length_add_append, List.drop_length_add_append, encode_append, hiff]
    · exact hP
    · rw [← encode_append, List.take_append_drop]
  · right
    refine ⟨by rw [List.length_append]; omega, fun u v huv hP' => ?_⟩
    rw [encode_append] at huv
    obtain ⟨u, rfl⟩ := hpre u v huv hP'
    rw [List.append_assoc, List.append_cancel_left_eq] at huv
    exact hnone u v huv ((hiff u v huv).mp hP')

/-- Two parts that start one text are comparable. -/
theorem prefix_of_le {u v w t : List UInt8} (h : u ++ v = w ++ t) (hle : w.length ≤ u.length) :
    w <+: u :=
  List.prefix_of_prefix_length_le ⟨t, rfl⟩ ⟨v, h⟩ hle

/-- The shorter of two parts that start one text lies within the other. -/
theorem mem_of_lt {u v w t : List UInt8} {b : UInt8} (h : u ++ v = w ++ t)
    (hlt : u.length < w.length) (hb : b ∈ u) : b ∈ w :=
  (List.prefix_of_prefix_length_le ⟨v, h⟩ ⟨t, rfl⟩ (Nat.le_of_lt hlt)).subset hb

/-- Octets that make no difference one by one make none together. -/
theorem append_iff {P : List UInt8 → List UInt8 → Prop} {w v : List UInt8}
    (h : ∀ b ∈ w, ∀ u, P (b :: u) v ↔ P u v) {u : List UInt8} : P (w ++ u) v ↔ P u v := by
  induction w with
  | nil => rfl
  | cons b w ih =>
    rw [List.cons_append, h b List.mem_cons_self, ih fun b hb => h b (List.mem_cons_of_mem _ hb)]

/-- A character only adds to the extent of what closes with another one. -/
theorem EndsAt.cons {P : List UInt8 → List UInt8 → Prop} {a c : Char} {cs : List Char} {n : Nat}
    (ha : a.toNat < 128) (hcons : ∀ {b u v}, b ≠ octet a → (P (b :: u) v ↔ P u v))
    (hmem : ∀ {u v}, P u v → octet a ∈ u) (hc : c ≠ a) (h : EndsAt P cs n) :
    EndsAt P (c :: cs) (n + 1) := by
  have hw : octet a ∉ encode [c] := by
    rw [encode_cons, encode_nil, List.append_nil, octet_mem_utf8EncodeChar ha]
    exact hc
  have hne : ∀ b ∈ encode [c], b ≠ octet a := fun b hb hba => hw (hba ▸ hb)
  rw [Nat.add_comm]
  refine EndsAt.prepend [c] (fun u v _ => append_iff fun b hb _ => hcons (hne b hb)) ?_ h
  exact fun u v huv hP =>
    prefix_of_le huv (Nat.le_of_not_lt fun hlt => hw (mem_of_lt huv hlt (hmem hP)))

/-- What does not close before an octet does not close in a text without octets. -/
theorem EndsAt.nil {P : List UInt8 → List UInt8 → Prop} {b : UInt8}
    (hmem : ∀ {u v}, P u v → b ∈ u) : EndsAt P [] 0 := by
  refine .inr ⟨Nat.le_refl _, fun u v huv hP => ?_⟩
  have := hmem hP
  rw [(List.append_eq_nil_iff.mp huv).1] at this
  exact absurd this List.not_mem_nil

/-! ### Quotes -/

theorem closesQuote_cons {q b : UInt8} {u v : List UInt8} (hb : b ≠ q) :
    ClosesQuote q (b :: u) v ↔ ClosesQuote q u v := by
  constructor
  · rintro ⟨body, hu, hbody, hv⟩
    cases hbody with
    | nil => exact absurd (List.cons.inj hu).1 hb
    | plain _ hbody => exact ⟨_, (List.cons.inj hu).2, hbody, hv⟩
    | doubled _ => exact absurd (List.cons.inj hu).1 hb
  · rintro ⟨body, rfl, hbody, hv⟩
    exact ⟨b :: body, rfl, .plain hb hbody, hv⟩

theorem closesQuote_doubled {q : UInt8} {u v : List UInt8} :
    ClosesQuote q (q :: q :: u) v ↔ ClosesQuote q u v := by
  constructor
  · rintro ⟨body, hu, hbody, hv⟩
    cases hbody with
    | nil => exact absurd (List.cons.inj hu).2 (by simp)
    | plain hb _ => exact absurd (List.cons.inj hu).1.symm hb
    | doubled hbody => exact ⟨_, (List.cons.inj (List.cons.inj hu).2).2, hbody, hv⟩
  · rintro ⟨body, rfl, hbody, hv⟩
    exact ⟨q :: q :: body, rfl, .doubled hbody, hv⟩

theorem ClosesQuote.mem {q : UInt8} {u v : List UInt8} (h : ClosesQuote q u v) : q ∈ u := by
  obtain ⟨body, rfl, _⟩ := h
  simp

/-- A quote that a second one follows does not close. -/
theorem ClosesQuote.two_le {q : UInt8} {u v t : List UInt8} (h : ClosesQuote q u v)
    (heq : u ++ v = q :: q :: t) : 2 ≤ u.length := by
  obtain ⟨body, rfl, hbody, hv⟩ := h
  cases body with
  | nil =>
    rw [List.nil_append, List.singleton_append, List.cons.injEq] at heq
    exact absurd (by rw [heq.2]; rfl) hv
  | cons b body => simp

theorem endsAt_quotedExtent {a : Char} (ha : a.toNat < 128) (cs : List Char) :
    EndsAt (ClosesQuote (octet a)) cs (quotedExtent a cs) := by
  have henc : String.utf8EncodeChar a = [octet a] := utf8EncodeChar_of_lt ha
  have hmem : ∀ {u v}, ClosesQuote (octet a) u v → octet a ∈ u := ClosesQuote.mem
  fun_induction quotedExtent a cs with
  | case1 => exact .nil hmem
  | case2 c =>
    by_cases hc : c = a
    · subst hc
      exact .inl ⟨[], by simp [henc], .nil, by simp⟩
    · exact .cons ha closesQuote_cons hmem hc (.nil hmem)
  | case3 rest ih =>
    rw [Nat.add_comm]
    refine EndsAt.prepend [a, a] (fun u v _ => ?_) (fun u v huv hP => ?_) ih
    · simpa [henc] using closesQuote_doubled
    · have hlen := hP.two_le (t := encode rest) (by simpa [henc] using huv)
      exact prefix_of_le huv (by simpa [henc] using hlen)
  | case4 d rest hd =>
    -- a quote behind the closing one would have been read together with it
    refine .inl ⟨[], by simp [henc], .nil, fun hhead => ?_⟩
    have hpre : encode [a] <+: encode (d :: rest) := by
      obtain ⟨t, ht⟩ := List.head?_eq_some_iff.mp hhead
      rw [List.drop_succ_cons, List.drop_zero] at ht
      exact ⟨t, by rw [ht]; simp [henc]⟩
    rw [encode_prefix_iff (by simpa using ha), List.cons_prefix_cons] at hpre
    exact hd hpre.1.symm
  | case5 c d rest hc ih => exact .cons ha closesQuote_cons hmem hc ih

/-! ### Line comments -/

theorem closesLine_cons {b : UInt8} {u : List UInt8} (hb : b ≠ lineFeed) :
    ClosesLine (b :: u) ↔ ClosesLine u := by
  constructor
  · rintro ⟨body, hu, hbody⟩
    cases body with
    | nil => exact absurd (List.cons.inj hu).1 hb
    | cons _ body => exact ⟨body, (List.cons.inj hu).2, List.not_mem_of_not_mem_cons hbody⟩
  · rintro ⟨body, rfl, hbody⟩
    exact ⟨b :: body, rfl, List.not_mem_cons_of_ne_of_not_mem hb.symm hbody⟩

theorem ClosesLine.mem {u : List UInt8} (h : ClosesLine u) : lineFeed ∈ u := by
  obtain ⟨body, rfl, _⟩ := h
  simp

theorem endsAt_lineExtent (cs : List Char) :
    EndsAt (fun u _ => ClosesLine u) cs (lineExtent cs) := by
  fun_induction lineExtent cs with
  | case1 => exact .nil fun {_ _} h => h.mem
  | case2 rest =>
    exact .inl ⟨[], by simp [utf8EncodeChar_of_lt (by decide : '\n'.toNat < 128), lineFeed],
      List.not_mem_nil⟩
  | case3 c rest hc ih =>
    exact .cons (by decide) (fun {_ _ _} hb => closesLine_cons hb) (fun {_ _} h => h.mem) hc ih

/-! ### Nested comments -/

/-- Where no comment opens or closes, an octet makes no difference. -/
theorem closesBlock_cons {b : UInt8} {u v : List UInt8} (ho : ¬ commentOpening <+: b :: (u ++ v))
    (hc : ¬ commentClosing <+: b :: (u ++ v)) : ClosesBlock (b :: u) v ↔ ClosesBlock u v := by
  constructor
  · rintro ⟨body, hu, hbody⟩
    cases hbody with
    | nil => exact absurd ⟨v, by rw [← List.cons_append, hu]; rfl⟩ hc
    | plain _ _ hbody => exact ⟨_, (List.cons.inj hu).2, hbody⟩
    | @comment inner body _ _ _ =>
      refine absurd ⟨inner ++ (commentClosing ++ (body ++ (commentClosing ++ v))), ?_⟩ ho
      rw [← List.cons_append, hu]
      simp only [List.append_assoc]
  · rintro ⟨body, rfl, hbody⟩
    rw [List.append_assoc] at ho hc
    exact ⟨b :: body, rfl, .plain ho hc hbody⟩

/-- A comment within a comment closes before the outer one does. -/
theorem closesBlock_opening {u v : List UInt8} :
    ClosesBlock (commentOpening ++ u) v ↔
      ∃ u₁ u₂, u = u₁ ++ u₂ ∧ ClosesBlock u₁ (u₂ ++ v) ∧ ClosesBlock u₂ v := by
  constructor
  · rintro ⟨body, hu, hbody⟩
    cases hbody with
    | nil => exact absurd (List.cons.inj hu).1 (by decide)
    | plain ho _ _ =>
      exact absurd ⟨u ++ v, by rw [← List.append_assoc, hu, List.append_assoc]; rfl⟩ ho
    | @comment inner body _ hinner hbody =>
      simp only [List.append_assoc, List.append_cancel_left_eq] at hu hinner
      refine ⟨inner ++ commentClosing, body ++ commentClosing, ?_, ⟨inner, rfl, ?_⟩,
        ⟨body, rfl, hbody⟩⟩
      · rw [hu, List.append_assoc]
      · rwa [List.append_assoc]
  · rintro ⟨_, _, rfl, ⟨inner, rfl, hinner⟩, ⟨body, rfl, hbody⟩⟩
    rw [List.append_assoc] at hinner
    exact ⟨_, by simp only [List.append_assoc], .comment hinner hbody⟩

theorem closesBlock_closing {u v : List UInt8} :
    ClosesBlock (commentClosing ++ u) v ↔ u = [] := by
  constructor
  · rintro ⟨body, hu, hbody⟩
    cases hbody with
    | nil => simpa using hu
    | plain _ hc _ =>
      exact absurd ⟨u ++ v, by rw [← List.append_assoc, hu, List.append_assoc]; rfl⟩ hc
    | comment _ _ => exact absurd (List.cons.inj hu).1 (by decide)
  · rintro rfl
    exact ⟨[], by simp, .nil⟩

/-- With `n` comments open around it, a comment and they close one after the other. -/
def ClosesBlocks : Nat → List UInt8 → List UInt8 → Prop
  | 0, u, v => ClosesBlock u v
  | n + 1, u, v => ∃ u₁ u₂, u = u₁ ++ u₂ ∧ ClosesBlock u₁ (u₂ ++ v) ∧ ClosesBlocks n u₂ v

theorem ClosesBlock.suffix {u v : List UInt8} (h : ClosesBlock u v) : commentClosing <:+ u := by
  obtain ⟨body, rfl, _⟩ := h
  exact List.suffix_append _ _

theorem ClosesBlocks.suffix {n : Nat} {u v : List UInt8} (h : ClosesBlocks n u v) :
    commentClosing <:+ u := by
  induction n generalizing u with
  | zero => exact ClosesBlock.suffix h
  | succ n ih =>
    obtain ⟨u₁, u₂, rfl, _, h⟩ := h
    exact (ih h).trans (List.suffix_append _ _)

theorem closesBlocks_cons {n : Nat} {b : UInt8} {u v : List UInt8}
    (ho : ¬ commentOpening <+: b :: (u ++ v)) (hc : ¬ commentClosing <+: b :: (u ++ v)) :
    ClosesBlocks n (b :: u) v ↔ ClosesBlocks n u v := by
  cases n with
  | zero => exact closesBlock_cons ho hc
  | succ n =>
    constructor
    · rintro ⟨u₁, u₂, hu, h₁, h₂⟩
      cases u₁ with
      | nil => exact absurd h₁.suffix (by decide)
      | cons b' u₁ =>
        obtain ⟨rfl, htail⟩ := List.cons.inj hu
        obtain rfl : u = u₁ ++ u₂ := htail
        rw [List.append_assoc] at ho hc
        exact ⟨u₁, u₂, rfl, (closesBlock_cons ho hc).mp h₁, h₂⟩
    · rintro ⟨u₁, u₂, rfl, h₁, h₂⟩
      rw [List.append_assoc] at ho hc
      exact ⟨b :: u₁, u₂, rfl, (closesBlock_cons ho hc).mpr h₁, h₂⟩

theorem closesBlocks_opening {n : Nat} {u v : List UInt8} :
    ClosesBlocks n (commentOpening ++ u) v ↔ ClosesBlocks (n + 1) u v := by
  cases n with
  | zero => exact closesBlock_opening
  | succ n =>
    constructor
    · rintro ⟨u₁, u₂, hu, h₁, h₂⟩
      obtain ⟨w, rfl⟩ : commentOpening <+: u₁ :=
        prefix_of_le hu.symm h₁.suffix.length_le
      obtain ⟨x, y, rfl, hx, hy⟩ := closesBlock_opening.mp h₁
      simp only [List.append_assoc, List.append_cancel_left_eq] at hu hx
      exact ⟨x, y ++ u₂, hu, by rwa [List.append_assoc], y, u₂, rfl, hy, h₂⟩
    · rintro ⟨x, _, rfl, hx, y, u₂, rfl, hy, h₂⟩
      rw [List.append_assoc] at hx
      exact ⟨commentOpening ++ (x ++ y), u₂, by simp only [List.append_assoc],
        closesBlock_opening.mpr ⟨x, y, rfl, hx, hy⟩, h₂⟩

theorem closesBlocks_closing {n : Nat} {u v : List UInt8} :
    ClosesBlocks (n + 1) (commentClosing ++ u) v ↔ ClosesBlocks n u v := by
  constructor
  · rintro ⟨u₁, u₂, hu, h₁, h₂⟩
    obtain ⟨w, rfl⟩ : commentClosing <+: u₁ :=
      prefix_of_le hu.symm h₁.suffix.length_le
    obtain rfl := closesBlock_closing.mp h₁
    simp only [List.append_nil, List.append_cancel_left_eq] at hu
    rwa [hu]
  · intro h
    exact ⟨commentClosing, u, rfl, by simpa using closesBlock_closing.mpr rfl, h⟩

theorem encode_commentOpening : encode ['/', '*'] = commentOpening := by decide

theorem encode_commentClosing : encode ['*', '/'] = commentClosing := by decide

/-- A character at which no comment opens or closes only adds to the extent. -/
theorem EndsAt.cons_of_plain {d : Nat} {c : Char} {cs : List Char} {n : Nat}
    (ho : ¬ ['/', '*'] <+: c :: cs) (hc : ¬ ['*', '/'] <+: c :: cs)
    (h : EndsAt (ClosesBlocks d) cs n) : EndsAt (ClosesBlocks d) (c :: cs) (n + 1) := by
  rw [← encode_prefix_iff (by simp), encode_commentOpening] at ho
  rw [← encode_prefix_iff (by simp), encode_commentClosing] at hc
  rw [Nat.add_comm]
  refine EndsAt.prepend [c] (fun u v huv => ?_) (fun u v huv hP => ?_) h
  · rcases Nat.lt_or_ge c.toNat 128 with hlt | hge
    · rw [encode_cons, ← huv, utf8EncodeChar_of_lt hlt, List.singleton_append] at ho hc
      rw [encode_cons, encode_nil, List.append_nil, utf8EncodeChar_of_lt hlt,
        List.singleton_append]
      exact closesBlocks_cons ho hc
    · have hhigh : ∀ {a : Char}, a.toNat < 128 → ∀ b ∈ encode [c], b ≠ octet a := by
        rintro a ha b hb rfl
        rw [encode_cons, encode_nil, List.append_nil] at hb
        exact not_isHigh_octet ha (isHigh_of_mem hge _ hb)
      refine append_iff fun b hb u => closesBlocks_cons ?_ ?_
      · rintro ⟨x, hx⟩
        exact hhigh (by decide) b hb (List.cons.inj hx).1.symm
      · rintro ⟨x, hx⟩
        exact hhigh (by decide) b hb (List.cons.inj hx).1.symm
  · have hsuf := hP.suffix
    rcases Nat.lt_or_ge c.toNat 128 with hlt | hge
    · refine prefix_of_le huv (Nat.le_trans ?_ hsuf.length_le)
      simp [utf8EncodeChar_of_lt hlt, commentClosing]
    · refine prefix_of_le huv (Nat.le_of_not_lt fun hshort => ?_)
      have hmem := mem_of_lt huv hshort (hsuf.subset (by decide : star ∈ commentClosing))
      rw [encode_cons, encode_nil, List.append_nil] at hmem
      exact not_isHigh_octet (by decide) (isHigh_of_mem hge _ hmem)

theorem endsAt_blockExtent (d : Nat) (cs : List Char) :
    EndsAt (ClosesBlocks d) cs (blockExtent d cs) := by
  have unclosed : ∀ d, EndsAt (ClosesBlocks d) [] 0 := fun d =>
    .nil fun {_ _} h => h.suffix.subset (by decide : star ∈ commentClosing)
  fun_induction blockExtent d cs with
  | case1 d => exact unclosed d
  | case2 d c => exact (unclosed d).cons_of_plain (by simp) (by simp)
  | case3 d c e rest hce ih =>
    obtain ⟨rfl, rfl⟩ := hce
    rw [Nat.add_comm]
    refine EndsAt.prepend ['/', '*'] (fun u v _ => ?_) (fun u v huv hP => ?_) ih
    · exact encode_commentOpening ▸ closesBlocks_opening
    · exact prefix_of_le huv hP.suffix.length_le
  | case4 c e rest _ hce =>
    obtain ⟨rfl, rfl⟩ := hce
    left
    show ClosesBlock (encode ['*', '/']) (encode rest)
    rw [encode_commentClosing]
    simpa using closesBlock_closing.mpr rfl
  | case5 c e rest _ hce outer ih =>
    obtain ⟨rfl, rfl⟩ := hce
    rw [Nat.add_comm]
    refine EndsAt.prepend ['*', '/'] (fun u v _ => ?_) (fun u v huv hP => ?_) ih
    · exact encode_commentClosing ▸ closesBlocks_closing
    · exact prefix_of_le huv hP.suffix.length_le
  | case6 d c e rest ho hc ih =>
    refine ih.cons_of_plain ?_ ?_
    · rw [List.cons_prefix_cons, List.cons_prefix_cons]
      exact fun h => ho ⟨h.1.symm, h.2.1.symm⟩
    · rw [List.cons_prefix_cons, List.cons_prefix_cons]
      exact fun h => hc ⟨h.1.symm, h.2.1.symm⟩

/-! ### Dollar blocks -/

theorem endsAt_dollarExtent {close : List Char} (hclose : ∀ a ∈ close, a.toNat < 128)
    (hdollar : close.head? = some '$') (cs : List Char) :
    EndsAt (ClosesDollar (encode close)) cs (dollarExtent close cs) := by
  obtain ⟨more, rfl⟩ := List.head?_eq_some_iff.mp hdollar
  have hhead : encode ('$' :: more) = dollar :: encode more := by
    rw [encode_cons, utf8EncodeChar_of_lt (by decide)]; rfl
  fun_induction dollarExtent ('$' :: more) cs with
  | case1 =>
    refine .inr ⟨Nat.le_refl _, ?_⟩
    rintro _ v huv ⟨body, rfl, _⟩
    rw [hhead] at huv
    simp at huv
  | case2 c rest hpre =>
    obtain ⟨t, ht⟩ := List.isPrefixOf_iff_prefix.mp hpre
    refine .inl ⟨[], ?_, fun _ _ _ => Nat.zero_le _⟩
    rw [← ht, List.take_left, List.nil_append]
  | case3 c rest hpre ih =>
    rw [List.isPrefixOf_iff_prefix, ← encode_prefix_iff hclose] at hpre
    -- the block cannot end at this character
    have later : ∀ {x y : List UInt8},
        encode [c] ++ encode rest = x ++ (encode ('$' :: more) ++ y) →
        (encode [c]).length ≤ x.length := by
      intro x y hxy
      rw [← encode_append, List.singleton_append] at hxy
      have hcut : encode (c :: rest) = x ++ octet '$' :: (encode more ++ y) := by
        rw [hxy, hhead]; rfl
      rw [encode_cons, encode_nil, List.append_nil]
      refine length_le_of_encode_cons (by decide) hcut ?_
      rintro rfl
      exact hpre ⟨y, hxy.symm⟩
    rw [Nat.add_comm]
    refine EndsAt.prepend [c] (fun u v huv => ⟨?_, ?_⟩) ?_ ih
    · rintro ⟨body, hu, hleft⟩
      have hbody : encode [c] <+: body := by
        have hcut : encode [c] ++ encode rest = body ++ (encode ('$' :: more) ++ v) := by
          rw [← huv, ← List.append_assoc, hu, List.append_assoc]
        exact prefix_of_le hcut.symm (later hcut)
      obtain ⟨body, rfl⟩ := hbody
      rw [List.append_assoc, List.append_cancel_left_eq] at hu
      refine ⟨body, hu, fun x y hxy => ?_⟩
      have := hleft (encode [c] ++ x) y (by rw [List.append_assoc, hxy, List.append_assoc])
      simpa using this
    · rintro ⟨body, rfl, hleft⟩
      refine ⟨encode [c] ++ body, by rw [List.append_assoc], fun x y hxy => ?_⟩
      rw [List.append_assoc, huv] at hxy
      obtain ⟨x, rfl⟩ : encode [c] <+: x := prefix_of_le hxy.symm (later hxy)
      rw [← huv] at hxy
      simp only [List.append_assoc, List.append_cancel_left_eq] at hxy
      have := hleft x y (by rw [List.append_assoc, hxy])
      simpa using this
    · rintro _ v huv ⟨body, rfl, _⟩
      rw [List.append_assoc] at huv
      exact (prefix_of_le huv (later huv.symm)).trans (List.prefix_append _ _)

end SqlClient.Sql.Grammar
