/-!
# Blank characters

The characters of the Unicode property `White_Space`, and the trimming of a text by them.
-/

namespace SqlClient.Text

/-- The characters of the Unicode property `White_Space`. -/
def isBlank (c : Char) : Bool :=
  let n := c.toNat
  (0x9 ≤ n && n ≤ 0xD) || n == 0x20 || n == 0x85 || n == 0xA0 || n == 0x1680 ||
    (0x2000 ≤ n && n ≤ 0x200A) || n == 0x2028 || n == 0x2029 || n == 0x202F || n == 0x205F ||
    n == 0x3000

/-- The list without the blanks at its end. -/
def dropTrailingBlanks : List Char → List Char
  | [] => []
  | c :: cs =>
    match dropTrailingBlanks cs with
    | [] => if isBlank c then [] else [c]
    | d :: ds => c :: d :: ds

/-- The list without the blanks at either end. -/
def trimChars (cs : List Char) : List Char :=
  dropTrailingBlanks (cs.dropWhile isBlank)

/-- The text without the blanks at either end. -/
def trim (s : String) : String :=
  String.ofList (trimChars s.toList)

/-- Nothing but blanks. -/
def isBlankText (s : String) : Bool :=
  s.toList.all isBlank

/-- Nothing is left of a list if and only if all of it is blank. -/
theorem dropTrailingBlanks_eq_nil_iff {cs : List Char} :
    dropTrailingBlanks cs = [] ↔ cs.all isBlank = true := by
  induction cs with
  | nil => simp [dropTrailingBlanks]
  | cons c cs ih =>
    cases h : dropTrailingBlanks cs with
    | nil => by_cases hc : isBlank c <;> simp_all [dropTrailingBlanks]
    | cons d ds =>
      have : ¬ cs.all isBlank = true := fun hall => by simp [ih.2 hall] at h
      simp_all [dropTrailingBlanks]

end SqlClient.Text
