import SqlClient.Binding
import SqlClient.Proofs.Sql.Cut
import SqlClient.Proofs.Text.Trim

/-!
# Parameter identifiers

An identifier is trimmed, its form is checked, its digits are read one by one as long as the number
does not become too great, and the index is the number before. All that comes down to one rule on
the text. It does not matter which numerals the form admits besides the decimal digits.
-/

namespace SqlClient.Sql

open SqlClient.Text

/-! ### The number -/

section Number

variable {n m : Nat} {digits : List Char}

theorem appendDigit?_eq_some_iff {d : Char} : appendDigit? n d = some m ↔
    d.isDigit = true ∧ 10 * n + (d.toNat - '0'.toNat) = m ∧ m ≤ maxParameterNumber := by
  rw [appendDigit?]
  by_cases hd : d.isDigit = true
  · rw [if_pos hd]
    grind
  · simp [hd]

/-- Further digits make no number smaller. -/
theorem le_ofDigitChars (n : Nat) (digits : List Char) : n ≤ Nat.ofDigitChars 10 digits n := by
  induction digits generalizing n with
  | nil => exact Nat.le_refl n
  | cons d digits ih =>
    rw [Nat.ofDigitChars_cons]
    exact Nat.le_trans (by omega) (ih _)

/-- Stopping where the number becomes too great loses no number that is not. -/
theorem foldlM_appendDigit?_eq_some_iff (hn : n ≤ maxParameterNumber) :
    digits.foldlM appendDigit? n = some m ↔
      (∀ d ∈ digits, d.isDigit = true) ∧ Nat.ofDigitChars 10 digits n = m ∧
        m ≤ maxParameterNumber := by
  induction digits generalizing n with
  | nil =>
    rw [List.foldlM_nil, Nat.ofDigitChars_nil]
    constructor
    · rintro ⟨⟩
      exact ⟨nofun, rfl, hn⟩
    · rintro ⟨-, rfl, -⟩
      rfl
  | cons d digits ih =>
    rw [List.foldlM_cons, Option.bind_eq_bind, Option.bind_eq_some_iff, List.forall_mem_cons,
      Nat.ofDigitChars_cons]
    constructor
    · rintro ⟨k, hk, hm⟩
      obtain ⟨hd, rfl, hk⟩ := appendDigit?_eq_some_iff.mp hk
      obtain ⟨hdigits, hvalue, hle⟩ := (ih hk).mp hm
      exact ⟨⟨hd, hdigits⟩, hvalue, hle⟩
    · rintro ⟨⟨hd, hdigits⟩, hvalue, hle⟩
      have hk : 10 * n + (d.toNat - '0'.toNat) ≤ maxParameterNumber :=
        (le_ofDigitChars _ digits).trans (hvalue.le.trans hle)
      exact ⟨_, appendDigit?_eq_some_iff.mpr ⟨hd, rfl, hk⟩, (ih hk).mpr ⟨hdigits, hvalue, hle⟩⟩

theorem parameterNumber?_eq_some_iff : parameterNumber? digits = some m ↔
    (∀ d ∈ digits, d.isDigit = true) ∧ Nat.ofDigitChars 10 digits 0 = m ∧
      m ≤ maxParameterNumber :=
  foldlM_appendDigit?_eq_some_iff (Nat.zero_le _)

end Number

/-! ### The form -/

theorem exists_sigil_iff {c : Char} :
    (c = '$' ∨ c = '?') ↔ ∃ style, c = PlaceholderStyle.sigil style := by
  constructor
  · rintro (rfl | rfl)
    · exact ⟨.dollar, rfl⟩
    · exact ⟨.question, rfl⟩
  · rintro ⟨style, rfl⟩
    cases style
    · exact .inl rfl
    · exact .inr rfl

theorem identifierDigits?_eq_some_iff {isNumeral : Char → Bool} {cs digits : List Char} :
    identifierDigits? isNumeral cs = some digits ↔
      (∃ style, cs = PlaceholderStyle.sigil style :: digits) ∧ digits ≠ [] ∧
        ∀ d ∈ digits, isNumeral d = true := by
  cases cs with
  | nil => simp [identifierDigits?]
  | cons c cs =>
    have hstyle : (∃ style, c :: cs = PlaceholderStyle.sigil style :: digits) ↔
        (c = '$' ∨ c = '?') ∧ cs = digits := by
      simp only [List.cons.injEq, exists_and_right, exists_sigil_iff]
    rw [identifierDigits?, hstyle]
    grind

/-! ### Identifiers -/

/-- Between blanks the identifier has a sigil and decimal digits, and the number that they spell,
from one to the greatest, is the one behind `index`. -/
def NamesParameter (identifier : String) (index : Nat) : Prop :=
  ∃ (leading : List Char) (style : PlaceholderStyle) (digits trailing : List Char),
    identifier.toList = leading ++ (style.sigil :: digits ++ trailing) ∧
      (∀ c ∈ leading ++ trailing, isBlank c = true) ∧
      digits ≠ [] ∧ (∀ d ∈ digits, d.isDigit = true) ∧
      Nat.ofDigitChars 10 digits 0 = index + 1 ∧ index + 1 ≤ maxParameterNumber

theorem not_blank_of_placeholder {style : PlaceholderStyle} {digits : List Char}
    (h : ∀ d ∈ digits, d.isDigit = true) : ∀ c ∈ style.sigil :: digits, isBlank c = false := by
  refine List.forall_mem_cons.mpr ⟨?_, fun d hd => isBlank_of_isDigit (h d hd)⟩
  cases style <;> decide

theorem parameterIndexBy?_eq_some_iff {isNumeral : Char → Bool} {identifier : String} {index : Nat}
    (hnumeral : ∀ c : Char, c.isDigit = true → isNumeral c = true) :
    parameterIndexBy? isNumeral identifier = some index ↔ NamesParameter identifier index := by
  rw [parameterIndexBy?, Option.bind_eq_bind, Option.bind_eq_some_iff]
  constructor
  · rintro ⟨digits, hform, hindex⟩
    obtain ⟨⟨style, htrim⟩, hne, -⟩ := identifierDigits?_eq_some_iff.mp hform
    rw [Option.bind_eq_bind, Option.bind_eq_some_iff] at hindex
    obtain ⟨number, hnumber, hindex⟩ := hindex
    obtain ⟨hdigits, hvalue, hle⟩ := parameterNumber?_eq_some_iff.mp hnumber
    obtain ⟨leading, trailing, hblanks, htext⟩ :=
      (trimChars_eq_iff (not_blank_of_placeholder hdigits)).mp htrim
    cases number with
    | zero => cases hindex
    | succ number =>
      obtain rfl := Option.some.inj hindex
      exact ⟨leading, style, digits, trailing, htext, hblanks, hne, hdigits, hvalue, hle⟩
  · rintro ⟨leading, style, digits, trailing, htext, hblanks, hne, hdigits, hvalue, hle⟩
    have htrim : trimChars identifier.toList = style.sigil :: digits :=
      (trimChars_eq_iff (not_blank_of_placeholder hdigits)).mpr ⟨leading, trailing, hblanks, htext⟩
    refine ⟨digits, identifierDigits?_eq_some_iff.mpr ⟨⟨style, htrim⟩, hne, ?_⟩, ?_⟩
    · exact fun d hd => hnumeral d (hdigits d hd)
    · rw [parameterNumber?_eq_some_iff.mpr ⟨hdigits, hvalue, hle⟩]
      rfl

theorem parameterIndex?_eq_some_iff {identifier : String} {index : Nat} :
    parameterIndex? identifier = some index ↔ NamesParameter identifier index :=
  parameterIndexBy?_eq_some_iff fun _ h => h

/-- Numerals other than the decimal digits do not matter. -/
theorem parameterIndexBy?_eq {isNumeral : Char → Bool}
    (hnumeral : ∀ c : Char, c.isDigit = true → isNumeral c = true) (identifier : String) :
    parameterIndexBy? isNumeral identifier = parameterIndex? identifier :=
  Option.ext fun _ =>
    (parameterIndexBy?_eq_some_iff hnumeral).trans parameterIndex?_eq_some_iff.symm

theorem parameterIndex_eq_ok_iff {identifier : String} {index : Nat} :
    parameterIndex identifier = .ok index ↔ parameterIndex? identifier = some index := by
  rw [parameterIndex]
  cases parameterIndex? identifier <;> simp

/-- The sigil does not matter. -/
theorem parameterIndex?_placeholder (style : PlaceholderStyle) {digits : List Char}
    (hne : digits ≠ []) (hdigits : ∀ d ∈ digits, d.isDigit = true) :
    parameterIndex? (String.ofList (style.sigil :: digits)) =
      (parameterNumber? digits).bind fun
        | 0 => none
        | index + 1 => some index := by
  have hform : identifierDigits? Char.isDigit (style.sigil :: digits) = some digits :=
    identifierDigits?_eq_some_iff.mpr ⟨⟨style, rfl⟩, hne, hdigits⟩
  rw [parameterIndex?, parameterIndexBy?, String.toList_ofList,
    trimChars_of_not_blank (not_blank_of_placeholder hdigits), hform]
  rfl

theorem namesParameter_digits (style : PlaceholderStyle) {index : Nat}
    (h : index < maxParameterNumber) :
    NamesParameter (String.singleton style.sigil ++ Text.digits (index + 1)) index := by
  refine ⟨[], style, Nat.toDigits 10 (index + 1), [], ?_, nofun, Nat.toDigits_ne_nil, ?_,
    Nat.ofDigitChars_ten_toDigits, h⟩
  · rw [String.toList_append, String.toList_singleton, Text.digits, String.toList_ofList,
      List.nil_append, List.append_nil, List.singleton_append]
  · exact fun d hd => Nat.isDigit_of_mem_toDigits (by decide) (by decide) hd

/-- An identifier has an index exactly if between blanks it is a sigil with the decimal digits of
the number behind the index, and any other is refused and quoted as it was given. Which further
numerals the form admits makes no difference. A number written behind either sigil is read back. -/
theorem parameterIndex_grammar (identifier : String) :
    (∀ index, parameterIndex identifier = .ok index ↔ NamesParameter identifier index) ∧
      (parameterIndex identifier = .error (.badIdentifier identifier) ↔
        ∀ index, ¬ NamesParameter identifier index) ∧
      (Error.badIdentifier identifier).kind = .invalidArgument ∧
      (Error.badIdentifier identifier).message = "Invalid argument: " ++ ("Identifier '" ++
        identifier ++ "' is not a valid identifier. Should be of the pattern '^[$?](\\d+)$'.") ∧
      (∀ isNumeral : Char → Bool, (∀ c : Char, c.isDigit = true → isNumeral c = true) →
        parameterIndexBy? isNumeral identifier = parameterIndex? identifier) ∧
      ∀ (style : PlaceholderStyle), ∀ index < maxParameterNumber,
        parameterIndex (String.singleton style.sigil ++ Text.digits (index + 1)) = .ok index := by
  have hok : ∀ {identifier index},
      parameterIndex identifier = .ok index ↔ NamesParameter identifier index :=
    parameterIndex_eq_ok_iff.trans parameterIndex?_eq_some_iff
  refine ⟨fun index => hok, ?_, rfl, rfl, fun isNumeral h => parameterIndexBy?_eq h identifier,
    fun style index h => hok.mpr (namesParameter_digits style h)⟩
  simp only [← parameterIndex?_eq_some_iff, parameterIndex]
  cases parameterIndex? identifier <;> simp

/-- Zeros in front, and blanks of any kind around. -/
example : parameterIndex "\u2003?0012\n" = .ok 11 := by cbv

end SqlClient.Sql
