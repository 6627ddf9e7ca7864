import Mathlib.Data.List.Basic
import Mathlib.Tactic.Common
import SqlClient.Row

/-!
# Columns by name

The index of names is built one name after the other and never gives up a place, so it leads to the
first column of those with one upper-cased name. Everything that is looked up by name goes through
that place.
-/

namespace SqlClient

open Text (upper)

/-! ### The index -/

namespace NameIndex

variable {index : NameIndex} {seen : List String}

/-- Of the names seen so far the index has the first places, and no other names. -/
def HasFirst (index : NameIndex) (seen : List String) : Prop :=
  ∀ key, index.lookup key = seen.findIdx? fun n => upper n == key

theorem HasFirst.note (h : HasFirst index seen) (name : String) :
    HasFirst (index.note name seen.length) (seen ++ [name]) := by
  intro key
  rw [List.findIdx?_append, ← h key, NameIndex.note]
  cases hplace : index.lookup (upper name) with
  | some place =>
    -- the name has a place, to the left of this one
    rw [Option.isSome_some, if_pos rfl]
    by_cases hkey : upper name = key
    · rw [← hkey, hplace]
      rfl
    · rw [List.findIdx?_singleton, if_neg (by simpa using hkey), Option.map_none, Option.or_none]
  | none =>
    rw [Option.isSome_none, if_neg Bool.false_ne_true, List.lookup_cons, List.findIdx?_singleton]
    by_cases hkey : upper name = key
    · rw [← hkey, hplace]
      simp
    · rw [if_neg (by simpa using hkey), Option.map_none, Option.or_none,
        beq_false_of_ne (Ne.symm hkey)]

theorem HasFirst.foldl (h : HasFirst index seen) (names : List String) :
    HasFirst ((names.zipIdx seen.length).foldl (fun i entry => i.note entry.1 entry.2) index)
      (seen ++ names) := by
  induction names generalizing index seen with
  | nil => rwa [List.append_nil]
  | cons name names ih =>
    have hlater := ih (h.note name)
    rwa [List.length_append, List.append_assoc] at hlater

theorem hasFirst_ofNames (names : List String) : HasFirst (.ofNames names) names := by
  have hempty : HasFirst [] [] := fun _ => rfl
  exact hempty.foldl names

end NameIndex

/-! ### The first column with a name -/

/-- The column is seen under the name, whatever the case of either. -/
def Column.IsNamed (c : Column) (name : String) : Prop := upper c.visibleName = upper name

/-- Of the columns with this name the one at `index` is the first. -/
structure FirstNamed (columns : List Column) (name : String) (index : Nat) : Prop where
  named : ∃ c, columns[index]? = some c ∧ c.IsNamed name
  none_before : ∀ i < index, ∀ c, columns[i]? = some c → ¬ c.IsNamed name

variable {columns : List Column} {name : String} {index : Nat}

theorem findIdx?_eq_some_iff_firstNamed :
    (columns.findIdx? fun c => upper c.visibleName == upper name) = some index ↔
      FirstNamed columns name index := by
  rw [List.findIdx?_eq_some_iff_getElem]
  constructor
  · rintro ⟨hlt, hnamed, hbefore⟩
    refine ⟨⟨columns[index], List.getElem?_eq_getElem hlt, eq_of_beq hnamed⟩, ?_⟩
    intro i hi c hc hname
    obtain ⟨hlt', rfl⟩ := List.getElem?_eq_some_iff.mp hc
    exact hbefore i hi (beq_iff_eq.mpr hname)
  · rintro ⟨⟨c, hc, hnamed⟩, hbefore⟩
    obtain ⟨hlt, rfl⟩ := List.getElem?_eq_some_iff.mp hc
    refine ⟨hlt, beq_iff_eq.mpr hnamed, fun i hi hname => ?_⟩
    exact hbefore i hi _ (List.getElem?_eq_getElem (Nat.lt_trans hi hlt)) (eq_of_beq hname)

/-- A column with the name is the first of them, or there is one in front of it. -/
theorem exists_firstNamed {c : Column} (hc : columns[index]? = some c) (hname : c.IsNamed name) :
    ∃ i ≤ index, FirstNamed columns name i := by
  cases hfound : columns.findIdx? fun c => upper c.visibleName == upper name with
  | none =>
    have hnone := List.findIdx?_eq_none_iff.mp hfound c (List.mem_of_getElem? hc)
    exact absurd hname (beq_eq_false_iff_ne.mp hnone)
  | some i =>
    have hfirst := findIdx?_eq_some_iff_firstNamed.mp hfound
    refine ⟨i, Nat.le_of_not_lt fun hlt => ?_, hfirst⟩
    exact hfirst.none_before index hlt c hc hname

namespace RowMetadata

variable {r : Registry}

theorem names_ofColumns (r : Registry) (columns : List Column) :
    (ofColumns r columns).names = columns.map Column.visibleName := by
  rw [names, ofColumns, List.map_map]
  rfl

/-- The index leads to where a search from the left ends. -/
theorem indexOf?_ofColumns (r : Registry) (columns : List Column) (name : String) :
    (ofColumns r columns).indexOf? name =
      columns.findIdx? fun c => upper c.visibleName == upper name := by
  rw [indexOf?, byName, NameIndex.hasFirst_ofNames, names_ofColumns, List.findIdx?_map]
  rfl

theorem indexOf?_eq_some_iff :
    (ofColumns r columns).indexOf? name = some index ↔ FirstNamed columns name index := by
  rw [indexOf?_ofColumns, findIdx?_eq_some_iff_firstNamed]

theorem indexOf?_eq_none_iff :
    (ofColumns r columns).indexOf? name = none ↔ ∀ c ∈ columns, ¬ c.IsNamed name := by
  rw [indexOf?_ofColumns, List.findIdx?_eq_none_iff]
  exact forall₂_congr fun c _ => beq_eq_false_iff_ne

theorem indexOf_eq_ok_iff :
    (ofColumns r columns).indexOf name = .ok index ↔ FirstNamed columns name index := by
  rw [← indexOf?_eq_some_iff (r := r), indexOf]
  cases (ofColumns r columns).indexOf? name <;> simp

theorem indexOf_eq_error_iff {e : Error} :
    (ofColumns r columns).indexOf name = .error e ↔
      e = .noColumnNamed (upper name) (columns.map Column.visibleName) ∧
        ∀ c ∈ columns, ¬ c.IsNamed name := by
  rw [← indexOf?_eq_none_iff (r := r), indexOf, names_ofColumns]
  cases (ofColumns r columns).indexOf? name <;> simp [eq_comm]

theorem contains_iff :
    (ofColumns r columns).contains name = true ↔
      ∃ index, (ofColumns r columns).indexOf name = .ok index := by
  rw [contains, ← indexOf?, Option.isSome_iff_exists]
  exact exists_congr fun index => indexOf?_eq_some_iff.trans indexOf_eq_ok_iff.symm

theorem column_of_firstNamed (h : FirstNamed columns name index) :
    ∃ c, columns[index]? = some c ∧ c.IsNamed name ∧
      (ofColumns r columns).column index = .ok (.ofColumn r c) := by
  obtain ⟨c, hc, hname⟩ := h.named
  refine ⟨c, hc, hname, ?_⟩
  rw [column, ofColumns, List.getElem?_map, hc]
  rfl

/-- Columns are found under their upper-cased visible names, and of several with one name always the
first; a name that no column has is refused, and with it every access by that name. Where a name is
found, every access by it is the access by the index. Every column's own name is found, at the
column or in front of it. -/
theorem lookup_by_name (r : Registry) (columns : List Column) (name : String) :
    let m := ofColumns r columns
    let unknown := Error.noColumnNamed (upper name) (columns.map Column.visibleName)
    (∀ i, m.indexOf name = .ok i ↔ FirstNamed columns name i) ∧
      (unknown.kind = .invalidArgument ∧
        (m.indexOf name = .error unknown ↔ ∀ c ∈ columns, ¬ c.IsNamed name)) ∧
      (m.contains name = true ↔ ∃ i, m.indexOf name = .ok i) ∧
      (∀ i, m.indexOf name = .ok i →
        (∃ c, columns[i]? = some c ∧ c.IsNamed name ∧ m.column i = .ok (.ofColumn r c)) ∧
        m.columnNamed name = m.column i ∧
        ∀ (values : List Value) (conversions : Conversions) (wanted : Wanted),
          let row : Row := ⟨values, m, conversions⟩
          row.getNamed wanted name = row.get wanted i ∧ row.valueNamed name = row.value i) ∧
      (∀ e, m.indexOf name = .error e →
        e = unknown ∧ m.columnNamed name = .error e ∧
        ∀ (values : List Value) (conversions : Conversions) (wanted : Wanted),
          let row : Row := ⟨values, m, conversions⟩
          row.getNamed wanted name = .error e ∧ row.valueNamed name = .error e) ∧
      ∀ (k : Nat) (c : Column), columns[k]? = some c →
        ∃ i ≤ k, m.indexOf c.visibleName = .ok i ∧ FirstNamed columns c.visibleName i := by
  intro m unknown
  refine ⟨fun i => indexOf_eq_ok_iff, ⟨rfl, ?_⟩, contains_iff, fun i hi => ⟨?_, ?_, ?_⟩,
    fun e he => ⟨(indexOf_eq_error_iff.mp he).1, ?_, ?_⟩, fun k c hc => ?_⟩
  · rw [indexOf_eq_error_iff, eq_self, true_and]
  · exact column_of_firstNamed (indexOf_eq_ok_iff.mp hi)
  · rw [columnNamed, hi]
    rfl
  · intro values conversions wanted row
    rw [Row.getNamed, Row.valueNamed, hi]
    exact ⟨rfl, rfl⟩
  · rw [columnNamed, he]
    rfl
  · intro values conversions wanted row
    rw [Row.getNamed, Row.valueNamed, he]
    exact ⟨rfl, rfl⟩
  · have hname : c.IsNamed c.visibleName := rfl
    obtain ⟨i, hle, hfirst⟩ := exists_firstNamed hc hname
    exact ⟨i, hle, indexOf_eq_ok_iff.mpr hfirst, hfirst⟩

/-- Of two columns whose names are the same only when they are upper-cased, the first. -/
example :
    let type : TypeInfo := .of .integer
    let columns : List Column := [⟨"N", "straße", type, .unknown⟩, .plain "STRASSE" type]
    (ofColumns (.standard false) columns).indexOf "Strasse" = .ok 0 := by
  cbv

end RowMetadata

end SqlClient
