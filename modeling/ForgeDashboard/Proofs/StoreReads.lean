import ForgeDashboard.Proofs.Clocks
import ForgeDashboard.Proofs.Integration

/-!
# Reads agree with the store

Whatever happened to a store, what it answers is a matter of its rows.  A count is the number of
rows; the latest entity is the row that is greatest by instant and number; the owner of a repository
is the user under the number that the row of the repository holds.  An answer is missing exactly if
a table that it needs is missing.  The rows keep instants, so the clocks that time stamps were read
off do not matter.

## Main definitions

* `Store.ReadsAgree` : what a store answers is a matter of its rows.

## Main results

* `reads_agree_with_store` : every run leaves a store of which this is true.
-/

namespace ForgeDashboard

/-- The access to a store that can be opened. -/
def Store.access (s : Store) : Access := ⟨s, none⟩

/-- A row as a latest entity. -/
def Row.entity {kind : EntityKind} (row : Row kind) : LatestEntity := ⟨kind, row.id, .text row.name⟩

/-- The user that owns a repository, if the repository and the user are there. -/
def ownerRow (users : List (Row .user)) (repositories : List (Row .repository)) (id : Int) :
    Option (Row .user) := do
  let repository ← findRow repositories id
  findRow users repository.detail

/-- What a store answers is a matter of its rows. -/
structure Store.ReadsAgree (s : Store) (τ : Type) : Prop where
  /-- A count is the number of rows. -/
  count : ∀ kind n, (s.access.count kind : Behaviour τ Int) = .answers (.ok n) ↔
    ∃ rows, s.table kind = some rows ∧ n = rows.length
  /-- There is no latest entity if the count is zero. -/
  noLatest : ∀ kind, (s.access.latest kind : Behaviour τ (Option LatestEntity)) =
    .answers (.ok none) ↔ (s.access.count kind : Behaviour τ Int) = .answers (.ok 0)
  /-- The latest entity is the row that is greatest by instant and number. -/
  latest : ∀ kind e, (s.access.latest kind : Behaviour τ (Option LatestEntity)) =
    .answers (.ok (some e)) ↔
      ∃ rows row, s.table kind = some rows ∧ IsLatest rows (some row) ∧
        e = ⟨kind, row.id, .text row.name⟩
  /-- The owner of a repository is the user under the number that the row of it holds. -/
  owner : ∀ id, -2 ^ 63 ≤ id → id < 2 ^ 63 → ∀ name,
    (s.access.owner id : Behaviour τ (Option String)) = .answers (.ok (some name)) ↔
      ∃ users repositories, s.users = some users ∧ s.repositories = some repositories ∧
        ∃ repository ∈ repositories, ∃ user ∈ users,
          repository.id = id ∧ user.id = repository.detail ∧ user.name = name
  /-- There is no owner if there is no such repository or no such user. -/
  noOwner : ∀ id, -2 ^ 63 ≤ id → id < 2 ^ 63 →
    ((s.access.owner id : Behaviour τ (Option String)) = .answers (.ok none) ↔
      ∃ users repositories, s.users = some users ∧ s.repositories = some repositories ∧
        ∀ repository ∈ repositories, repository.id = id →
          ∀ user ∈ users, user.id ≠ repository.detail)
  /-- A count is unavailable if the table is missing. -/
  countUnavailable : ∀ kind,
    (∃ u, (s.access.count kind : Behaviour τ Int) = .answers (.error u) ∧
      u.source = kind.name ++ ".count") ↔ s.table kind = none
  /-- A latest entity is unavailable if the table is missing. -/
  latestUnavailable : ∀ kind,
    (∃ u, (s.access.latest kind : Behaviour τ (Option LatestEntity)) = .answers (.error u) ∧
      u.source = kind.name ++ ".latest") ↔ s.table kind = none
  /-- An owner is unavailable if the users or the repositories are missing. -/
  ownerUnavailable : ∀ id, -2 ^ 63 ≤ id → id < 2 ^ 63 →
    ((∃ u, (s.access.owner id : Behaviour τ (Option String)) = .answers (.error u) ∧
      u.source = "repository.owner") ↔ s.users = none ∨ s.repositories = none)

/-! ### Owners -/

section Owners

variable {users : List (Row .user)} {repositories : List (Row .repository)} {id : Int}

theorem ownerRow_eq_some_iff (husers : DistinctIds users)
    (hrepositories : DistinctIds repositories) {user : Row .user} :
    ownerRow users repositories id = some user ↔
      ∃ repository ∈ repositories, user ∈ users ∧
        repository.id = id ∧ user.id = repository.detail := by
  simp only [ownerRow, Option.bind_eq_bind, Option.bind_eq_some_iff,
    findRow_eq_some_iff husers, findRow_eq_some_iff hrepositories]
  constructor
  · rintro ⟨repository, ⟨hmem, hid⟩, huser, howner⟩
    exact ⟨repository, hmem, huser, hid, howner⟩
  · rintro ⟨repository, hmem, huser, hid, howner⟩
    exact ⟨repository, ⟨hmem, hid⟩, huser, howner⟩

theorem ownerRow_eq_none_iff (husers : DistinctIds users)
    (hrepositories : DistinctIds repositories) :
    ownerRow users repositories id = none ↔
      ∀ repository ∈ repositories, repository.id = id →
        ∀ user ∈ users, user.id ≠ repository.detail := by
  simp only [Option.eq_none_iff_forall_ne_some, ne_eq,
    ownerRow_eq_some_iff husers hrepositories, not_exists, not_and]
  constructor
  · intro h repository hmem hid user huser
    exact h user repository hmem huser hid
  · intro h user repository hmem huser hid
    exact h repository hmem hid user huser

end Owners

/-! ### Answers of tables -/

namespace Store

variable {s : Store} {τ : Type} {kind : EntityKind}

theorem count_of_table {rows : List (Row kind)} (h : s.table kind = some rows) :
    (s.access.count kind : Behaviour τ Int) = .answers (.ok rows.length) := by
  have hrows : s.rows kind = .ok rows := rows_eq_ok_iff.mpr h
  show Behaviour.ofQuery _ (s.count kind) = _
  rw [count, hrows]
  rfl

theorem latest_of_table {rows : List (Row kind)} (h : s.table kind = some rows) :
    (s.access.latest kind : Behaviour τ (Option LatestEntity)) =
      .answers (.ok ((latestRow rows).map Row.entity)) := by
  have hrows : s.rows kind = .ok rows := rows_eq_ok_iff.mpr h
  show Behaviour.ofQuery _ (Access.latestEntity s kind) = _
  rw [Access.latestEntity, latest, hrows]
  rfl

theorem owner_of_tables {users : List (Row .user)} {repositories : List (Row .repository)}
    {id : Int} (hid : fitsColumn id = true) (husers : s.users = some users)
    (hrepositories : s.repositories = some repositories) :
    (s.access.owner id : Behaviour τ (Option String)) =
      .answers (.ok ((ownerRow users repositories id).map (·.name))) := by
  have hrows : s.rows .user = .ok users := rows_eq_ok_iff.mpr husers
  have hfind : s.find .repository id = .ok (findRow repositories id) :=
    find_eq_ok_iff.mpr ⟨repositories, hrepositories, hid, rfl⟩
  show Behaviour.ofQuery _ (s.ownerName id) = _
  rw [ownerName, hrows, ownerRow]
  show Behaviour.ofQuery _ (s.find .repository id >>= _) = _
  rw [hfind]
  rcases findRow repositories id with _ | repository
  · rfl
  · rfl

theorem count_of_missing (h : s.table kind = none) :
    (s.access.count kind : Behaviour τ Int) =
      .answers (.error ⟨kind.name ++ ".count", .fault (.noSuchTable kind.table)⟩) := by
  have hrows : s.rows kind = .error (.noSuchTable kind.table) := by rw [rows, h]
  show Behaviour.ofQuery _ (s.count kind) = _
  rw [count, hrows]
  rfl

theorem latest_of_missing (h : s.table kind = none) :
    (s.access.latest kind : Behaviour τ (Option LatestEntity)) =
      .answers (.error ⟨kind.name ++ ".latest", .fault (.noSuchTable kind.table)⟩) := by
  have hrows : s.rows kind = .error (.noSuchTable kind.table) := by rw [rows, h]
  show Behaviour.ofQuery _ (Access.latestEntity s kind) = _
  rw [Access.latestEntity, latest, hrows]
  rfl

/-- Of two missing tables that of the users is reported. -/
theorem owner_of_missing {id : Int} (h : s.users = none ∨ s.repositories = none) :
    (s.access.owner id : Behaviour τ (Option String)) = .answers (.error ⟨"repository.owner",
      .fault (.noSuchTable (if s.users = none then "users" else "repositories"))⟩) := by
  show Behaviour.ofQuery _ (s.ownerName id) = _
  rcases husers : s.users with _ | users
  · have hrows : s.rows .user = .error (.noSuchTable "users") := by
      rw [rows, show s.table .user = none from husers]
      rfl
    rw [ownerName, hrows]
    rfl
  · have hrows : s.rows .user = .ok users := rows_eq_ok_iff.mpr husers
    have hrepositories : s.rows .repository = .error (.noSuchTable "repositories") := by
      have hnone : s.repositories = none := h.resolve_left (by simp [husers])
      rw [rows, show s.table .repository = none from hnone]
      rfl
    rw [ownerName, hrows]
    show Behaviour.ofQuery _ (s.find .repository id >>= _) = _
    rw [find, hrepositories]
    rfl

/-! ### Stores with distinct numbers -/

theorem fitsColumn_iff {n : Int} : fitsColumn n = true ↔ -2 ^ 63 ≤ n ∧ n < 2 ^ 63 := by
  simp [fitsColumn]

/-- What a store answers is a matter of its rows if their numbers are distinct. -/
theorem readsAgree_of_distinctIds (h : ∀ kind, ∀ rows ∈ s.table kind, DistinctIds rows) :
    s.ReadsAgree τ where
  count := by
    intro kind n
    rcases htable : s.table kind with _ | rows
    · simp [count_of_missing htable]
    · simp [count_of_table htable, eq_comm]
  noLatest := by
    intro kind
    rcases htable : s.table kind with _ | rows
    · simp [count_of_missing htable, latest_of_missing htable]
    · simp [count_of_table htable, latest_of_table htable, latestRow_eq_iff (h kind rows htable),
        IsLatest]
  latest := by
    intro kind e
    rcases htable : s.table kind with _ | rows
    · simp [latest_of_missing htable]
    · simp [latest_of_table htable, latestRow_eq_iff (h kind rows htable), Row.entity,
        eq_comm (a := e)]
  owner := by
    intro id hlow hhigh name
    rcases husers : s.users with _ | users
    · simp [owner_of_missing (Or.inl husers)]
    rcases hrepositories : s.repositories with _ | repositories
    · simp [owner_of_missing (Or.inr hrepositories)]
    rw [owner_of_tables (fitsColumn_iff.mpr ⟨hlow, hhigh⟩) husers hrepositories]
    simp only [Behaviour.answers.injEq, Except.ok.injEq, Option.map_eq_some_iff,
      Option.some.injEq, exists_and_left, exists_eq_left',
      ownerRow_eq_some_iff (h .user users husers) (h .repository repositories hrepositories)]
    constructor
    · rintro ⟨user, ⟨repository, hmem, huser, hrepository, howner⟩, hname⟩
      exact ⟨repository, hmem, user, huser, hrepository, howner, hname⟩
    · rintro ⟨repository, hmem, user, huser, hrepository, howner, hname⟩
      exact ⟨user, ⟨repository, hmem, huser, hrepository, howner⟩, hname⟩
  noOwner := by
    intro id hlow hhigh
    rcases husers : s.users with _ | users
    · simp [owner_of_missing (Or.inl husers)]
    rcases hrepositories : s.repositories with _ | repositories
    · simp [owner_of_missing (Or.inr hrepositories)]
    rw [owner_of_tables (fitsColumn_iff.mpr ⟨hlow, hhigh⟩) husers hrepositories]
    simp [ownerRow_eq_none_iff (h .user users husers) (h .repository repositories hrepositories)]
  countUnavailable := by
    intro kind
    rcases htable : s.table kind with _ | rows
    · simp [count_of_missing htable]
    · simp [count_of_table htable]
  latestUnavailable := by
    intro kind
    rcases htable : s.table kind with _ | rows
    · simp [latest_of_missing htable]
    · simp [latest_of_table htable]
  ownerUnavailable := by
    intro id hlow hhigh
    by_cases hmissing : s.users = none ∨ s.repositories = none
    · simp [owner_of_missing hmissing, hmissing]
    · obtain ⟨husers, hrepositories⟩ := not_or.mp hmissing
      obtain ⟨users, husers⟩ := Option.ne_none_iff_exists'.mp husers
      obtain ⟨repositories, hrepositories⟩ := Option.ne_none_iff_exists'.mp hrepositories
      rw [owner_of_tables (fitsColumn_iff.mpr ⟨hlow, hhigh⟩) husers hrepositories]
      simp [husers, hrepositories]

end Store

/-- After every run from the store without tables, what the store answers is a matter of its rows.
A row has the instant of a time stamp that was written to its table, and the store is the same
whatever clocks the time stamps were read off. -/
theorem reads_agree_with_store (τ : Type) (ops : List Operation) :
    (Store.empty.applyAll ops).ReadsAgree τ ∧
      (∀ kind, ∀ rows ∈ (Store.empty.applyAll ops).table kind, ∀ row ∈ rows,
        ∃ op ∈ ops, ∃ t ∈ op.stamps kind, t.Denotes row.createdAt) ∧
      ∀ shift, Store.empty.applyAll (ops.map (Operation.reclocked shift)) =
        Store.empty.applyAll ops :=
  ⟨Store.readsAgree_of_distinctIds (distinctIds_applyAll ops), exists_stamp_applyAll ops,
    fun _ => Store.empty.applyAll_reclocked ops⟩

/-- Two users, of whom the first was made by a later clock at an earlier instant; another user of
the same name, who is refused; a repository of the second user, one of nobody, and no groups. -/
def mixedClocks : List Operation :=
  [.create,
    .add .user ⟨none, some "early", none, none, some ⟨63839714400000000, some 7200000000⟩⟩,
    .add .user ⟨none, some "late", none, none, some ⟨63839710800000000, some 0⟩⟩,
    .add .user ⟨none, some "late", none, none, some ⟨63839718000000000, some 0⟩⟩,
    .add .repository ⟨none, some "tools", none, some 2, some ⟨63839710800000000, some 0⟩⟩,
    .add .repository ⟨none, some "ghost", none, some 9, some ⟨63839710800000000, some 0⟩⟩,
    .drop .group]

/-- The store that they make. -/
def mixedStore : Store where
  users := some [⟨1, "early", ⟨63839707200000000⟩, none⟩, ⟨2, "late", ⟨63839710800000000⟩, none⟩]
  groups := none
  repositories := some
    [⟨1, "tools", ⟨63839710800000000⟩, 2⟩, ⟨2, "ghost", ⟨63839710800000000⟩, 9⟩]

/-- The instant decides which of the two users is the later one. -/
theorem later_instant_beats_later_clock :
    Store.empty.applyAll mixedClocks = mixedStore ∧
      (mixedStore.access.count .user : Behaviour Int Int) = .answers (.ok 2) ∧
      (mixedStore.access.latest .user : Behaviour Int (Option LatestEntity)) =
        .answers (.ok (some ⟨.user, 2, .text "late"⟩)) ∧
      (mixedStore.access.owner 1 : Behaviour Int (Option String)) = .answers (.ok (some "late")) ∧
      (mixedStore.access.owner 2 : Behaviour Int (Option String)) = .answers (.ok none) ∧
      ∃ u, (mixedStore.access.count .group : Behaviour Int Int) = .answers (.error u) ∧
        u.source = "group.count" := by
  have hstore : Store.empty.applyAll mixedClocks = mixedStore := by decide +kernel
  have h : mixedStore.ReadsAgree Int := hstore ▸ (reads_agree_with_store Int mixedClocks).1
  refine ⟨hstore, (h.count .user 2).mpr ⟨_, rfl, rfl⟩,
    (h.latest .user _).mpr ⟨_, ⟨2, "late", ⟨63839710800000000⟩, none⟩, rfl, ⟨by simp, ?_⟩, rfl⟩,
    ?_, ?_, ?_⟩
  · simp [Row.NotAfter]
  · exact (h.owner 1 (by decide) (by decide) "late").mpr
      ⟨_, _, rfl, rfl, _, List.mem_cons_self, _, List.mem_cons_of_mem _ List.mem_cons_self,
        rfl, rfl, rfl⟩
  · refine (h.noOwner 2 (by decide) (by decide)).mpr ⟨_, _, rfl, rfl, ?_⟩
    simp
  · exact (h.countUnavailable .group).mpr rfl

end ForgeDashboard
