import SqlClient.Proofs.Sql.Identifier
import SqlClient.Proofs.Sql.RestyledScript

/-!
# Restyled octet by octet

Either style has a sigil of one octet, so restyling moves nothing. The octets of a text that start a
placeholder of the other style change into the new sigil, and every other octet stays where it is,
the digits of the placeholders with them.
-/

namespace SqlClient.Sql

open SqlClient.Text Grammar

variable {target : PlaceholderStyle} {i : Nat}

/-! ### Lexemes and their octets -/

theorem length_encode_restyled (target : PlaceholderStyle) (l : Lexeme) (next : Option Lexeme) :
    (encode (l.restyled target next).chars).length = (encode l.chars).length := by
  rw [← byteSize_eq_length, ← byteSize_eq_length]
  exact byteSize_restyled l next

theorem length_encode_restyle (target : PlaceholderStyle) (ls : List Lexeme) :
    (encode (spell (restyle target ls))).length = (encode (spell ls)).length := by
  induction ls with
  | nil => rfl
  | cons l ls ih =>
    rw [restyle_cons, spell_cons, spell_cons, encode_append, encode_append, List.length_append,
      List.length_append, ih, length_encode_restyled]

/-- Around a sigil in front of a code digit everything is restyled on its own. -/
theorem spell_restyle_around {after : List Lexeme}
    (h : after.head?.any Lexeme.isCodeDigit = true) (before : List Lexeme) :
    spell (restyle target (before ++ ⟨.code, [target.other.sigil]⟩ :: after)) =
      spell (restyle target before) ++ target.sigil :: spell (restyle target after) := by
  have hplain :
      (⟨.code, [target.other.sigil]⟩ :: after).head?.any Lexeme.isCodeDigit = false := by
    cases target <;> rfl
  have hsigil : (⟨.code, [target.other.sigil]⟩ : Lexeme).restyled target after.head? =
      ⟨.code, [target.sigil]⟩ := by
    rw [Lexeme.restyled, h, isCodeChar_iff.mpr rfl]
    rfl
  rw [restyle_append hplain, restyle_cons, hsigil, spell_append, spell_cons, List.singleton_append]

/-- The octet of a sigil in front of a code digit becomes that of the new one. -/
theorem getElem?_encode_restyle_of_sigilAt {ls : List Lexeme} (h : SigilAt target.other ls i) :
    (encode (spell (restyle target ls)))[i]? = some (octet target.sigil) := by
  obtain ⟨before, after, rfl, hdigit, rfl⟩ := h
  rw [spell_restyle_around hdigit, encode_append, encode_cons,
    utf8EncodeChar_of_lt (sigil_toNat_lt target), ← length_encode_restyle target,
    List.getElem?_append_right (Nat.le_refl _), Nat.sub_self]
  rfl

/-- No other octet changes. -/
theorem getElem?_encode_restyle_of_not {ls : List Lexeme} (h : ¬ SigilAt target.other ls i) :
    (encode (spell (restyle target ls)))[i]? = (encode (spell ls))[i]? := by
  induction ls generalizing i with
  | nil => rfl
  | cons l ls ih =>
    have hlength := length_encode_restyled target l ls.head?
    rw [restyle_cons, spell_cons, spell_cons, encode_append, encode_append]
    rcases Nat.lt_or_ge i (encode l.chars).length with hi | hi
    · rw [List.getElem?_append_left (hlength ▸ hi), List.getElem?_append_left hi]
      rcases restyled_cases target l ls.head? with hsame | ⟨rfl, hdigit, -⟩
      · rw [hsame]
      · -- the one octet of the lexeme is the sigil that would have changed
        rw [encode_cons, utf8EncodeChar_of_lt (sigil_toNat_lt _), encode_nil] at hi
        obtain rfl := Nat.lt_one_iff.mp hi
        exact absurd ⟨[], ls, rfl, hdigit, rfl⟩ h
    · obtain ⟨j, rfl⟩ := Nat.exists_eq_add_of_le hi
      rw [List.getElem?_append_right (hlength ▸ hi), List.getElem?_append_right hi, hlength,
        Nat.add_sub_cancel_left]
      exact ih fun hj => h (hj.cons l)

/-! ### Digits -/

theorem Resigned.isDigit_eq {c d : Char} (h : Resigned target c d) : d.isDigit = c.isDigit := by
  rcases h with rfl | ⟨rfl, rfl⟩
  · rfl
  · cases target <;> decide

theorem ResignedText.any_isDigit_head? {cs ds : List Char} (h : ResignedText target cs ds) :
    ds.head?.any Char.isDigit = cs.head?.any Char.isDigit := by
  cases h with
  | nil => rfl
  | cons hc _ => exact hc.isDigit_eq

theorem any_isDigit_head?_dropWhile (cs : List Char) :
    (cs.dropWhile Char.isDigit).head?.any Char.isDigit = false := by
  have hfirst := List.head?_dropWhile_not Char.isDigit cs
  cases hhead : (cs.dropWhile Char.isDigit).head? with
  | none => rfl
  | some c =>
    rw [hhead] at hfirst
    exact hfirst

/-- The digits that a text starts with stay, and no digit follows them that did not before. -/
theorem exists_spell_restyle_digits (target : PlaceholderStyle) (cs : List Char) :
    ∃ rest, spell (restyle target (lexemes cs)) = cs.takeWhile Char.isDigit ++ rest ∧
      rest.head?.any Char.isDigit = false := by
  have hdigits : ∀ d ∈ cs.takeWhile Char.isDigit, isTagChar d = true := fun d hd =>
    isTagChar_of_isDigit (List.mem_takeWhile_imp hd)
  have hresigned : ResignedText target _ _ :=
    resignedText_restyle (lexemes (cs.dropWhile Char.isDigit))
  rw [spell_lexemes] at hresigned
  refine ⟨spell (restyle target (lexemes (cs.dropWhile Char.isDigit))), ?_, ?_⟩
  · rw [← spell_restyle_tag_append hdigits, List.takeWhile_append_dropWhile]
  · rw [hresigned.any_isDigit_head?, any_isDigit_head?_dropWhile]

/-! ### Placeholders -/

/-- At octet `i` the text has the sigil of `style` with these digits, and no further digit. -/
def PlaceholderAt (style : PlaceholderStyle) (text : String) (i : Nat) (digits : List Char) :
    Prop :=
  ∃ before rest, text.toList = before ++ style.sigil :: (digits ++ rest) ∧
    (encode before).length = i ∧ digits ≠ [] ∧ (∀ d ∈ digits, d.isDigit = true) ∧
    rest.head?.any Char.isDigit = false

/-- A placeholder has its digits afterwards. -/
theorem IsPlaceholder.exists_digits {sql : String} (h : IsPlaceholder target.other sql i) :
    ∃ digits, PlaceholderAt target.other sql i digits ∧
      PlaceholderAt target (withPlaceholders target sql) i digits := by
  obtain ⟨before, after, hsplit, hdigit, rfl⟩ := isPlaceholder_iff.mp h
  have hafter := lexemes_spell_behind hsplit
  have hhead : (lexemes (spell after)).head?.any Lexeme.isCodeDigit = true := by rwa [hafter]
  obtain ⟨d, more, hmore, hd⟩ := exists_digit_cons hhead
  have hne : (spell after).takeWhile Char.isDigit ≠ [] := by
    rw [hmore, List.takeWhile_cons_of_pos hd]
    exact List.cons_ne_nil d _
  have hall : ∀ c ∈ (spell after).takeWhile Char.isDigit, c.isDigit = true := fun c hc =>
    List.mem_takeWhile_imp hc
  obtain ⟨rest, hrest, hnext⟩ := exists_spell_restyle_digits target (spell after)
  refine ⟨(spell after).takeWhile Char.isDigit,
    ⟨spell before, (spell after).dropWhile Char.isDigit, ?_, rfl, hne, hall,
      any_isDigit_head?_dropWhile _⟩,
    ⟨spell (restyle target before), rest, ?_, length_encode_restyle target before, hne, hall,
      hnext⟩⟩
  · rw [List.takeWhile_append_dropWhile, ← spell_lexemes sql.toList, hsplit, spell_append,
      spell_cons, List.singleton_append]
  · rw [toList_withPlaceholders, hsplit, spell_restyle_around hdigit, ← hrest, hafter]

theorem restylePlaceholders_eq_unchanged_iff {sql : String} :
    restylePlaceholders target sql = .unchanged ↔ ∀ i, ¬ IsPlaceholder target.other sql i := by
  have hsame :
      restylePlaceholders target sql = .unchanged ↔ Styled target (lexemes sql.toList) := by
    rw [← restyle_eq_self_iff, restylePlaceholders]
    split
    next h => exact iff_of_true rfl h
    next h => exact iff_of_false (by rintro ⟨⟩) h
  rw [hsame, styled_iff]
  exact forall_congr' fun i => not_congr isPlaceholder_iff.symm

theorem isValidUTF8_toUtf8 (s : String) : (toUtf8 s).toByteArray.IsValidUTF8 := by
  rw [toUtf8_eq_encode]
  exact .intro s.toList rfl

/-- Restyling changes the octets that start a placeholder of the other style into the new sigil and
no other octet, so that a text keeps its length and stays well-formed. A placeholder keeps its
digits, all of them, and with them the index that it names, if it names one. A text is told to be
unchanged exactly if it has no placeholder of the other style. -/
theorem withPlaceholders_pointwise (target : PlaceholderStyle) (sql : String) :
    let restyled := withPlaceholders target sql
    (toUtf8 restyled).length = (toUtf8 sql).length ∧
      (∀ i, IsPlaceholder target.other sql i →
        (toUtf8 restyled)[i]? = some (octet target.sigil)) ∧
      (∀ i, ¬ IsPlaceholder target.other sql i → (toUtf8 restyled)[i]? = (toUtf8 sql)[i]?) ∧
      (toUtf8 restyled).toByteArray.IsValidUTF8 ∧
      (∀ i, IsPlaceholder target.other sql i → ∃ digits,
        PlaceholderAt target.other sql i digits ∧ PlaceholderAt target restyled i digits ∧
        ∀ index, parameterIndex (String.ofList (target.other.sigil :: digits)) = .ok index ↔
          parameterIndex (String.ofList (target.sigil :: digits)) = .ok index) ∧
      (restylePlaceholders target sql = .unchanged ↔ ∀ i, ¬ IsPlaceholder target.other sql i) := by
  intro restyled
  have hoctets : toUtf8 restyled = encode (spell (restyle target (lexemes sql.toList))) := by
    rw [toUtf8_eq_encode, toList_withPlaceholders]
  have hbefore : toUtf8 sql = encode (spell (lexemes sql.toList)) := by
    rw [toUtf8_eq_encode, spell_lexemes]
  refine ⟨?_, fun i h => ?_, fun i h => ?_, isValidUTF8_toUtf8 restyled, fun i h => ?_,
    restylePlaceholders_eq_unchanged_iff⟩
  · rw [hoctets, hbefore, length_encode_restyle]
  · rw [hoctets]
    exact getElem?_encode_restyle_of_sigilAt (isPlaceholder_iff.mp h)
  · rw [hoctets, hbefore]
    exact getElem?_encode_restyle_of_not (mt isPlaceholder_iff.mpr h)
  · obtain ⟨digits, hold, hnew⟩ := h.exists_digits
    have ⟨_, _, _, _, hne, hdigits, _⟩ := hold
    refine ⟨digits, hold, hnew, fun index => ?_⟩
    rw [parameterIndex_eq_ok_iff, parameterIndex_eq_ok_iff,
      parameterIndex?_placeholder _ hne hdigits, parameterIndex?_placeholder _ hne hdigits]

end SqlClient.Sql
