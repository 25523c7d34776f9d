import Mathlib.Data.List.Perm.Basic
import ForgeDashboard.Proofs.StoreReads

/-!
# The order of rows does not matter

A database may return the rows of a table in any order.  Where the numbers of the rows are distinct,
there is one latest row, and at most one user is joined to a repository of a given number.  So the
answers of a store whose rows have distinct numbers are the same in whatever order its tables hold
the rows.

## Main definitions

* `ownersOf` : the users that are joined to the repositories of a number.
* `Store.Reorders` : two stores hold the same rows in whatever order.

## Main results

* `existsUnique_isLatest` : there is one latest row.
* `ownersOf_eq_toList` : at most one user is joined.
* `latest_eq_of_reorders`, `owner_eq_of_reorders` : the order of rows cannot be seen.
-/

namespace ForgeDashboard

variable {kind : EntityKind} {rows rows' : List (Row kind)}

/-! ### Rows in another order -/

theorem DistinctIds.perm (h : DistinctIds rows) (hperm : rows.Perm rows') : DistinctIds rows' :=
  (hperm.map _).nodup_iff.mp h

theorem isLatest_perm_iff (hperm : rows.Perm rows') {row : Option (Row kind)} :
    IsLatest rows row ↔ IsLatest rows' row := by
  rcases row with _ | row
  · show rows = [] ↔ rows' = []
    constructor
    · rintro rfl
      exact hperm.symm.eq_nil
    · rintro rfl
      exact hperm.eq_nil
  · simp only [IsLatest, hperm.mem_iff]

theorem latestRow_perm (h : DistinctIds rows) (hperm : rows.Perm rows') :
    latestRow rows = latestRow rows' := by
  rw [latestRow_eq_iff h, isLatest_perm_iff hperm]
  exact isLatest_latestRow rows'

theorem findRow_perm (h : DistinctIds rows) (hperm : rows.Perm rows') (id : Int) :
    findRow rows id = findRow rows' id := by
  refine Option.ext fun row => ?_
  rw [findRow_eq_some_iff h, findRow_eq_some_iff (h.perm hperm), hperm.mem_iff]

/-- Rows with distinct numbers, if there are any, have one latest row. -/
theorem existsUnique_isLatest (h : DistinctIds rows) (hne : rows ≠ []) :
    ∃! row, IsLatest rows (some row) := by
  obtain ⟨row, hrow⟩ : ∃ row, latestRow rows = some row := by
    rcases hlatest : latestRow rows with _ | row
    · exact absurd ((latestRow_eq_iff h).mp hlatest) hne
    · exact ⟨row, rfl⟩
  refine ⟨row, (latestRow_eq_iff h).mp hrow, fun other hother => ?_⟩
  exact Option.some.inj (((latestRow_eq_iff h).mpr hother).symm.trans hrow)

/-! ### Joined rows -/

/-- The users that are joined to the repositories of a number, one for each pair that matches. -/
def ownersOf (users : List (Row .user)) (repositories : List (Row .repository)) (id : Int) :
    List (Row .user) :=
  (repositories.filter (·.id == id)).flatMap fun repository =>
    users.filter (·.id == repository.detail)

/-- Of rows with distinct numbers at most one has a given number. -/
theorem filter_id_eq_toList (h : DistinctIds rows) (id : Int) :
    rows.filter (·.id == id) = (findRow rows id).toList := by
  induction rows with
  | nil => rfl
  | cons row rows ih =>
    obtain ⟨hfresh, hrows⟩ := List.nodup_cons.mp h
    rw [findRow, List.filter_cons, List.find?_cons]
    by_cases hid : row.id = id
    · have hnone : rows.filter (·.id == id) = [] := by
        refine List.filter_eq_nil_iff.mpr fun other hother hsame => hfresh ?_
        exact List.mem_map.mpr ⟨other, hother, (beq_iff_eq.mp hsame).trans hid.symm⟩
      simp [hid, hnone]
    · rw [beq_false_of_ne hid, if_neg Bool.false_ne_true]
      exact ih hrows

/-- Where numbers are distinct, at most one user is joined. -/
theorem ownersOf_eq_toList {users : List (Row .user)} {repositories : List (Row .repository)}
    (husers : DistinctIds users) (hrepositories : DistinctIds repositories) (id : Int) :
    ownersOf users repositories id = (ownerRow users repositories id).toList := by
  rw [ownersOf, ownerRow, filter_id_eq_toList hrepositories]
  rcases findRow repositories id with _ | repository
  · rfl
  · simpa using filter_id_eq_toList husers repository.detail

/-! ### Stores with their rows in another order -/

namespace Store

/-- Two stores have the same tables, with the same rows in whatever order. -/
def Reorders (s s' : Store) : Prop :=
  ∀ kind, Option.Rel List.Perm (s.table kind) (s'.table kind)

variable {s s' : Store} {τ : Type}

theorem Reorders.table_eq_none_iff (h : s.Reorders s') (kind : EntityKind) :
    s.table kind = none ↔ s'.table kind = none := by
  have hkind := h kind
  generalize s.table kind = t at hkind ⊢
  generalize s'.table kind = t' at hkind ⊢
  cases hkind with
  | none => exact Iff.rfl
  | some => simp

theorem Reorders.exists_perm (h : s.Reorders s') (hrows : s.table kind = some rows) :
    ∃ rows', s'.table kind = some rows' ∧ rows.Perm rows' := by
  have hkind := h kind
  rw [hrows] at hkind
  rcases hrows' : s'.table kind with _ | rows'
  · rw [hrows'] at hkind
    cases hkind
  · rw [hrows'] at hkind
    cases hkind with
    | some hperm => exact ⟨rows', rfl, hperm⟩

variable (hids : ∀ kind, ∀ rows ∈ s.table kind, DistinctIds rows)

include hids

/-- The order of rows is not seen in the latest entity. -/
theorem latest_eq_of_reorders (h : s.Reorders s') (kind : EntityKind) :
    (s.access.latest kind : Behaviour τ (Option LatestEntity)) = s'.access.latest kind := by
  rcases hrows : s.table kind with _ | rows
  · rw [latest_of_missing hrows, latest_of_missing ((h.table_eq_none_iff kind).mp hrows)]
  · obtain ⟨rows', hrows', hperm⟩ := h.exists_perm hrows
    rw [latest_of_table hrows, latest_of_table hrows', latestRow_perm (hids _ _ hrows) hperm]

/-- The order of rows is not seen in the owner of a repository. -/
theorem owner_eq_of_reorders (h : s.Reorders s') (id : Int) :
    (s.access.owner id : Behaviour τ (Option String)) = s'.access.owner id := by
  by_cases hmissing : s.users = none ∨ s.repositories = none
  · have husers : s.users = none ↔ s'.users = none := h.table_eq_none_iff .user
    have hrepositories : s.repositories = none ↔ s'.repositories = none :=
      h.table_eq_none_iff .repository
    rw [owner_of_missing hmissing, owner_of_missing (by rwa [← husers, ← hrepositories])]
    simp only [husers]
  · obtain ⟨husers, hrepositories⟩ := not_or.mp hmissing
    obtain ⟨users, husers⟩ := Option.ne_none_iff_exists'.mp husers
    obtain ⟨repositories, hrepositories⟩ := Option.ne_none_iff_exists'.mp hrepositories
    have htable : s.table .user = some users := husers
    have htable' : s.table .repository = some repositories := hrepositories
    obtain ⟨users', husers', hpermUsers⟩ := h.exists_perm htable
    obtain ⟨repositories', hrepositories', hpermRepositories⟩ := h.exists_perm htable'
    have hfind : s.find .repository id = s'.find .repository id := by
      rw [find, find, rows_eq_ok_iff.mpr htable', rows_eq_ok_iff.mpr hrepositories']
      show (if _ then _ else pure (findRow repositories id)) =
        if _ then _ else pure (findRow repositories' id)
      rw [findRow_perm (hids .repository _ hrepositories) hpermRepositories]
    show Behaviour.ofQuery _ (s.ownerName id) = Behaviour.ofQuery _ (s'.ownerName id)
    rw [ownerName, ownerName, hfind, rows_eq_ok_iff.mpr htable, rows_eq_ok_iff.mpr husers']
    show Behaviour.ofQuery _ (s'.find .repository id >>= _) =
      Behaviour.ofQuery _ (s'.find .repository id >>= _)
    simp only [findRow_perm (hids .user _ husers) hpermUsers]

end Store

end ForgeDashboard
