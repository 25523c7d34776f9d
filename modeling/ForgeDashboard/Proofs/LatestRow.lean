import Mathlib.Algebra.Order.Ring.Int
import Mathlib.Data.List.Nodup
import ForgeDashboard.Proofs.Sections
import ForgeDashboard.Store.Basic

/-!
# Looking for rows

The latest row of a table is the greatest one in the order of instants and, at one instant, of
numbers.  The row of a number is found by going through the rows; where numbers are distinct it does
not matter in which order.

## Main definitions

* `Row.NotAfter` : the order of rows by time and number.
* `IsLatest` : a row, or none, is the latest one of given rows.

## Main results

* `isLatest_latestRow`, `latestRow_eq_iff` : what is found as the latest row is the latest one, and
  there is no other.
* `findRow_eq_some_iff`, `findRow_eq_none_iff` : what is found under a number.
-/

namespace ForgeDashboard

variable {kind : EntityKind} {rows : List (Row kind)}

/-! ### The latest row -/

/-- A row was created before another one, or at the same instant under a number that is not
greater. -/
def Row.NotAfter (a b : Row kind) : Prop :=
  a.createdAt.micros < b.createdAt.micros ∨
    a.createdAt.micros = b.createdAt.micros ∧ a.id ≤ b.id

/-- A row is the latest of the rows, or there are none. -/
def IsLatest (rows : List (Row kind)) : Option (Row kind) → Prop
  | none => rows = []
  | some row => row ∈ rows ∧ ∀ other ∈ rows, other.NotAfter row

theorem precedes_iff {a b : Row kind} :
    a.precedes b = true ↔ a.createdAt.micros < b.createdAt.micros ∨
      a.createdAt.micros = b.createdAt.micros ∧ a.id < b.id := by
  simp [Row.precedes]

namespace Row

theorem notAfter_refl (a : Row kind) : a.NotAfter a := Or.inr ⟨rfl, le_rfl⟩

theorem NotAfter.trans {a b c : Row kind} (hab : a.NotAfter b) (hbc : b.NotAfter c) :
    a.NotAfter c := by
  unfold NotAfter at *
  omega

/-- Rows that are not after each other have the same number. -/
theorem NotAfter.id_eq {a b : Row kind} (hab : a.NotAfter b) (hba : b.NotAfter a) :
    a.id = b.id := by
  unfold NotAfter at *
  omega

theorem notAfter_of_precedes {a b : Row kind} (h : a.precedes b = true) : a.NotAfter b := by
  rw [precedes_iff] at h
  unfold NotAfter
  omega

theorem notAfter_of_not_precedes {a b : Row kind} (h : ¬a.precedes b = true) : b.NotAfter a := by
  rw [precedes_iff] at h
  unfold NotAfter
  omega

end Row

/-- What is found as the latest row is the latest one. -/
theorem isLatest_latestRow (rows : List (Row kind)) : IsLatest rows (latestRow rows) := by
  induction rows with
  | nil => rfl
  | cons row rest ih =>
    rw [latestRow]
    rcases hrest : latestRow rest with _ | best
    · rw [hrest] at ih
      obtain rfl : rest = [] := ih
      exact ⟨List.mem_singleton_self _,
        fun other hother => List.mem_singleton.mp hother ▸ row.notAfter_refl⟩
    · rw [hrest] at ih
      obtain ⟨hbest, hgreatest⟩ : best ∈ rest ∧ ∀ other ∈ rest, other.NotAfter best := ih
      dsimp only
      split_ifs with hprecedes
      · refine ⟨List.mem_cons_of_mem _ hbest, List.forall_mem_cons.mpr ⟨?_, hgreatest⟩⟩
        exact Row.notAfter_of_precedes hprecedes
      · refine ⟨List.mem_cons_self, List.forall_mem_cons.mpr ⟨row.notAfter_refl, ?_⟩⟩
        intro other hother
        exact (hgreatest other hother).trans (Row.notAfter_of_not_precedes hprecedes)

/-! ### Distinct numbers -/

/-- The numbers of the rows are distinct. -/
abbrev DistinctIds (rows : List (Row kind)) : Prop := (rows.map (·.id)).Nodup

/-- Rows with distinct numbers are told apart by them. -/
theorem DistinctIds.eq_of_id_eq (h : DistinctIds rows) {a b : Row kind} (ha : a ∈ rows)
    (hb : b ∈ rows) (hid : a.id = b.id) : a = b :=
  List.inj_on_of_nodup_map h ha hb hid

/-- There is one latest row. -/
theorem latestRow_eq_iff (h : DistinctIds rows) {row : Option (Row kind)} :
    latestRow rows = row ↔ IsLatest rows row := by
  constructor
  · rintro rfl
    exact isLatest_latestRow rows
  · intro hrow
    have hfound := isLatest_latestRow rows
    rcases row with _ | row
    · obtain rfl : rows = [] := hrow
      rfl
    · rcases hlatest : latestRow rows with _ | found
      · rw [hlatest] at hfound
        obtain rfl : rows = [] := hfound
        exact absurd hrow.1 List.not_mem_nil
      · rw [hlatest] at hfound
        have hid : found.id = row.id := (hrow.2 found hfound.1).id_eq (hfound.2 row hrow.1)
        rw [h.eq_of_id_eq hfound.1 hrow.1 hid]

/-! ### The row of a number -/

theorem mem_of_findRow {id : Int} {row : Row kind} (h : findRow rows id = some row) :
    row ∈ rows ∧ row.id = id :=
  ⟨List.mem_of_find?_eq_some h, by simpa using List.find?_some h⟩

theorem findRow_eq_none_iff {id : Int} :
    findRow rows id = none ↔ ∀ row ∈ rows, row.id ≠ id := by
  simp [findRow, List.find?_eq_none]

theorem findRow_eq_some_iff (h : DistinctIds rows) {id : Int} {row : Row kind} :
    findRow rows id = some row ↔ row ∈ rows ∧ row.id = id := by
  constructor
  · exact mem_of_findRow
  · rintro ⟨hmem, rfl⟩
    rcases hfind : findRow rows row.id with _ | found
    · exact absurd rfl (findRow_eq_none_iff.mp hfind row hmem)
    · obtain ⟨hfound, hid⟩ := mem_of_findRow hfind
      rw [h.eq_of_id_eq hfound hmem hid]

end ForgeDashboard
