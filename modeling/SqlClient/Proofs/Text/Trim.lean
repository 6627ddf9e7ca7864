import Mathlib.Data.List.TakeWhile
import Mathlib.Tactic.Common
import SqlClient.Text.Blank

/-!
# Trimmed texts

A text is its trimmed text between blanks, and blanks at its ends do not change what trimming
leaves.
-/

namespace SqlClient.Text

theorem dropTrailingBlanks_append {blanks : List Char} (h : ∀ c ∈ blanks, isBlank c = true)
    (cs : List Char) : dropTrailingBlanks (cs ++ blanks) = dropTrailingBlanks cs := by
  induction cs with
  | nil =>
    rw [List.nil_append, dropTrailingBlanks_eq_nil_iff.mpr (List.all_eq_true.mpr h)]
    rfl
  | cons c cs ih => rw [List.cons_append, dropTrailingBlanks, dropTrailingBlanks, ih]

theorem exists_dropTrailingBlanks_append (cs : List Char) :
    ∃ blanks, (∀ c ∈ blanks, isBlank c = true) ∧ dropTrailingBlanks cs ++ blanks = cs := by
  induction cs with
  | nil => exact ⟨[], nofun, rfl⟩
  | cons c cs ih =>
    obtain ⟨blanks, hblanks, hcs⟩ := ih
    rw [dropTrailingBlanks]
    cases hkept : dropTrailingBlanks cs with
    | cons d ds =>
      rw [hkept] at hcs
      exact ⟨blanks, hblanks, congrArg (c :: ·) hcs⟩
    | nil =>
      rw [hkept, List.nil_append] at hcs
      rw [hcs] at hblanks
      by_cases hc : isBlank c = true
      · exact ⟨c :: cs, List.forall_mem_cons.mpr ⟨hc, hblanks⟩, by rw [if_pos hc, List.nil_append]⟩
      · exact ⟨cs, hblanks, by rw [if_neg hc, List.singleton_append]⟩

theorem trimChars_blanks_append {blanks : List Char} (h : ∀ c ∈ blanks, isBlank c = true)
    (cs : List Char) : trimChars (blanks ++ cs) = trimChars cs := by
  rw [trimChars, List.dropWhile_append_of_pos h, trimChars]

theorem trimChars_append_blanks {blanks : List Char} (h : ∀ c ∈ blanks, isBlank c = true)
    (cs : List Char) : trimChars (cs ++ blanks) = trimChars cs := by
  induction cs with
  | nil =>
    have hall := trimChars_blanks_append h []
    rwa [List.append_nil] at hall
  | cons c cs ih =>
    by_cases hc : isBlank c = true
    · rw [List.cons_append, trimChars, trimChars, List.dropWhile_cons_of_pos hc,
        List.dropWhile_cons_of_pos hc]
      exact ih
    · rw [List.cons_append, trimChars, trimChars, List.dropWhile_cons_of_neg hc,
        List.dropWhile_cons_of_neg hc, ← List.cons_append, dropTrailingBlanks_append h]

/-- A text is its trimmed text with the blanks that trimming took away. -/
theorem exists_trimChars_append (cs : List Char) : ∃ trailing, (∀ c ∈ trailing, isBlank c = true) ∧
    cs.takeWhile isBlank ++ (trimChars cs ++ trailing) = cs := by
  obtain ⟨trailing, hblank, hkept⟩ := exists_dropTrailingBlanks_append (cs.dropWhile isBlank)
  refine ⟨trailing, hblank, ?_⟩
  rw [trimChars, hkept, List.takeWhile_append_dropWhile]

/-- Trimming that takes no characters away changes nothing. -/
theorem trimChars_eq_self {cs : List Char} (h : (trimChars cs).length = cs.length) :
    trimChars cs = cs := by
  obtain ⟨trailing, -, hcs⟩ := exists_trimChars_append cs
  have hinfix : trimChars cs <:+: cs := ⟨_, trailing, by rw [List.append_assoc, hcs]⟩
  exact hinfix.eq_of_length h

theorem trimChars_trimChars (cs : List Char) : trimChars (trimChars cs) = trimChars cs := by
  obtain ⟨trailing, hblank, hcs⟩ := exists_trimChars_append cs
  calc trimChars (trimChars cs)
      = trimChars (trimChars cs ++ trailing) := (trimChars_append_blanks hblank _).symm
    _ = trimChars (cs.takeWhile isBlank ++ (trimChars cs ++ trailing)) :=
      (trimChars_blanks_append (fun _ hc => List.mem_takeWhile_imp hc) _).symm
    _ = trimChars cs := by rw [hcs]

theorem dropTrailingBlanks_of_not_blank {cs : List Char} (h : ∀ c ∈ cs, isBlank c = false) :
    dropTrailingBlanks cs = cs := by
  induction cs with
  | nil => rfl
  | cons c cs ih =>
    obtain ⟨hc, hcs⟩ := List.forall_mem_cons.mp h
    rw [dropTrailingBlanks, ih hcs]
    cases cs with
    | nil => simp [hc]
    | cons d ds => rfl

/-- What holds no blank is trimmed already. -/
theorem trimChars_of_not_blank {cs : List Char} (h : ∀ c ∈ cs, isBlank c = false) :
    trimChars cs = cs := by
  have hleading : cs.dropWhile isBlank = cs := by
    cases cs with
    | nil => rfl
    | cons c cs => exact List.dropWhile_cons_of_neg (by simp [h c List.mem_cons_self])
  rw [trimChars, hleading, dropTrailingBlanks_of_not_blank h]

/-- Trimming leaves such a text if and only if it stands between blanks. -/
theorem trimChars_eq_iff {cs kept : List Char} (h : ∀ c ∈ kept, isBlank c = false) :
    trimChars cs = kept ↔ ∃ leading trailing, (∀ c ∈ leading ++ trailing, isBlank c = true) ∧
      cs = leading ++ (kept ++ trailing) := by
  constructor
  · rintro rfl
    obtain ⟨trailing, htrailing, hcs⟩ := exists_trimChars_append cs
    refine ⟨cs.takeWhile isBlank, trailing, fun c hc => ?_, hcs.symm⟩
    rcases List.mem_append.mp hc with hc | hc
    · exact List.mem_takeWhile_imp hc
    · exact htrailing c hc
  · rintro ⟨leading, trailing, hblanks, rfl⟩
    obtain ⟨hleading, htrailing⟩ := List.forall_mem_append.mp hblanks
    rw [trimChars_blanks_append hleading, trimChars_append_blanks htrailing,
      trimChars_of_not_blank h]

/-! ### Characters that change and stay blank or not -/

theorem dropTrailingBlanks_map {f : Char → Char} (hf : ∀ c, isBlank (f c) = isBlank c)
    (cs : List Char) : dropTrailingBlanks (cs.map f) = (dropTrailingBlanks cs).map f := by
  induction cs with
  | nil => rfl
  | cons c cs ih =>
    rw [List.map_cons, dropTrailingBlanks, dropTrailingBlanks, ih, hf]
    cases dropTrailingBlanks cs with
    | nil => cases hc : isBlank c <;> simp
    | cons d ds => simp

theorem trimChars_map {f : Char → Char} (hf : ∀ c, isBlank (f c) = isBlank c) (cs : List Char) :
    trimChars (cs.map f) = (trimChars cs).map f := by
  have hcomp : isBlank ∘ f = isBlank := funext hf
  rw [trimChars, trimChars, List.dropWhile_map, hcomp, dropTrailingBlanks_map hf]

theorem isBlank_toLower (c : Char) : isBlank c.toLower = isBlank c := by
  have hletter : ∀ d : Char, 65 ≤ d.toNat → d.toNat ≤ 122 → isBlank d = false := by
    intro d hlo hhi
    simp only [isBlank, Bool.or_eq_false_iff, Bool.and_eq_false_iff, decide_eq_false_iff_not,
      beq_eq_false_iff_ne]
    omega
  unfold Char.toLower
  split
  next h =>
    have hlo : 65 ≤ c.toNat := h.1
    have hhi : c.toNat ≤ 90 := h.2
    have hlower : (c.val + 32).toNat = c.toNat + 32 := by
      rw [UInt32.toNat_add]
      exact Nat.mod_eq_of_lt (by simp; omega)
    rw [hletter c hlo (by omega)]
    exact hletter _ (hlower.ge.trans' (by omega)) (hlower.le.trans (by omega))
  next => rfl

end SqlClient.Text
