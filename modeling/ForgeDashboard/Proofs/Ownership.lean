import Mathlib.Tactic.IntervalCases
import ForgeDashboard.Proofs.InsertionOrder
import ForgeDashboard.Proofs.Placeholder

/-!
# Owners of repositories

A repository holds the number of its owner and nothing else of it.  When that user is deleted the
repository has no owner any more.  But a number may be given out again, and then the repository is
shown under the name of a user who never owned it.  It is shown under the right name, or under none,
exactly as long as the number is not taken over.

A user is told from a later one of the same number by the moment of its insertion.  The number of a
deleted user is given out again only if no user of a greater number was left, so a run in which the
next number never falls takes no number over.

## Main definitions

* `OwnerWritten` : the operation that gave a repository its owner number.
* `TakenOver` : the number of a user was given to another one after some operation.
* `nextUser` : the number that the next user gets.
* `Attributed` : under which name a repository is shown, given the user that its owner number meant.

## Main results

* `takenOver_or_insertedAt_iff` : a number that is there is that of the user it was, or taken over.
* `not_takenOver_of_nextUser_le` : a next number that never falls takes no number over.
* `shown_owner_unless_taken_over` : the owners that are shown, in every state of a run.
-/

namespace ForgeDashboard

variable {kind : EntityKind} {ops : List Operation} {id number : Int} {i j k l m n : ℕ}

/-- The owner number of a repository after the first operations of a run. -/
def ownerAfter (ops : List Operation) (repository : Int) (n : ℕ) : Option Int :=
  (findRow ((tableAfter ops .repository n).getD []) repository).map (·.detail)

/-- The `k`-th operation of a run gave a repository its owner number, by adding the repository or by
changing it, and the repository has held that number ever since. -/
structure OwnerWritten (ops : List Operation) (repository number : Int) (k : ℕ) : Prop where
  lt_length : k < ops.length
  changed : ownerAfter ops repository k ≠ some number
  kept : ∀ n, k < n → n ≤ ops.length → ownerAfter ops repository n = some number

/-- After the `k`-th operation of a run the number was given to a user, who is still there. -/
def TakenOver (ops : List Operation) (number : Int) (k : ℕ) : Prop :=
  ∃ i j, k < i ∧ InsertedAt ops .user number i j

/-- The number that the next user gets after the first operations of a run. -/
def nextUser (ops : List Operation) (n : ℕ) : Int := nextId ((tableAfter ops .user n).getD [])

/-! ### Prefixes of a run -/

theorem tableAfter_take (h : n ≤ m) : tableAfter (ops.take m) kind n = tableAfter ops kind n := by
  rw [tableAfter, tableAfter, List.take_take, min_eq_left h]

/-- A row that was inserted in a part of a run, and is still there, was inserted then in that
part. -/
theorem InsertedAt.take (h : InsertedAt ops kind id i j) (hi : i < m) :
    InsertedAt (ops.take m) kind id i j where
  made := by
    obtain ⟨op, rows, added, hop, hbefore, hafter, hgains, hid⟩ := h.made
    refine ⟨op, rows, added, ?_, ?_, ?_, hgains, hid⟩
    · rw [List.getElem?_take_of_lt hi, hop]
    · rw [tableAfter_take hi.le, hbefore]
    · rw [tableAfter_take hi, hafter]
  kept := by
    intro n hin hn
    rw [List.length_take] at hn
    rw [tableAfter_take (hn.trans (min_le_left _ _))]
    exact h.kept n hin (hn.trans (min_le_right _ _))

/-- The numbers that are there are those that were inserted at some moment. -/
theorem mem_idsOf_iff_insertedAt :
    id ∈ idsOf ((Store.empty.applyAll ops).table kind) ↔ ∃ i j, InsertedAt ops kind id i j := by
  constructor
  · exact (inOrder_applyAll ops kind).inserted id
  · rintro ⟨i, j, h⟩
    rw [← tableAfter_length]
    exact h.kept _ h.lt_length le_rfl

/-! ### Numbers that are taken over -/

section TakenOver

variable (h : InsertedAt (ops.take (k + 1)) .user number i j)

include h

theorem InsertedAt.le_of_take : i ≤ k := by
  have hi := h.lt_length
  rw [List.length_take] at hi
  omega

/-- A number that is there is that of the user it was, or it was taken over. -/
theorem takenOver_or_insertedAt_iff :
    number ∈ idsOf ((Store.empty.applyAll ops).table .user) ↔
      InsertedAt ops .user number i j ∨ TakenOver ops number k := by
  rw [mem_idsOf_iff_insertedAt]
  constructor
  · rintro ⟨i', j', h'⟩
    rcases lt_or_ge k i' with hlater | hearlier
    · exact Or.inr ⟨i', j', hlater, h'⟩
    · obtain ⟨rfl, rfl⟩ := (h'.take (Nat.lt_succ_of_le hearlier)).unique h
      exact Or.inl h'
  · rintro (h' | ⟨i', j', -, h'⟩)
    · exact ⟨i, j, h'⟩
    · exact ⟨i', j', h'⟩

/-- A number is not taken over while its user is there. -/
theorem InsertedAt.not_takenOver (h' : InsertedAt ops .user number i j) :
    ¬TakenOver ops number k := by
  rintro ⟨i', j', hlater, hother⟩
  obtain ⟨rfl, -⟩ := h'.unique hother
  exact hlater.not_ge h.le_of_take

end TakenOver

/-! ### The next number -/

/-- Drafts without numbers of their own get numbers from the next one on. -/
theorem Gains.nextId_le {rows added : List (Row kind)} {drafts : List Draft}
    (h : Gains (some rows) drafts (some (rows ++ added))) (hids : ∀ d ∈ drafts, d.id = none) :
    ∀ row ∈ added, nextId rows ≤ row.id := by
  induction drafts generalizing rows added with
  | nil =>
    obtain rfl : added = [] := by
      simpa using Option.some.inj (gains_nil_iff.mp h)
    simp
  | cons d drafts ih =>
    obtain ⟨hd, hids⟩ := List.forall_mem_cons.mp hids
    cases h with
    | @row _ _ _ _ row hid _ hrest =>
      have hnext : row.id = nextId rows := by rw [hid, hd, Option.getD_none]
      obtain ⟨others, hadded, -⟩ := hrest.exists_append
      rw [List.append_assoc] at hadded
      obtain rfl := List.append_cancel_left (Option.some.inj hadded)
      rw [← List.append_assoc] at hrest
      have hothers := ih hrest hids
      have hgrows : row.id < nextId (rows ++ [row]) := lt_nextId (by simp)
      rw [List.singleton_append, List.forall_mem_cons]
      exact ⟨hnext.ge, fun other hother => by linarith [hothers other hother]⟩

/-- A next number that never falls from one operation to the next does not fall in between. -/
theorem nextUser_le (hnext : ∀ n, k < n → n < ops.length → nextUser ops n ≤ nextUser ops (n + 1))
    (hkm : k < m) (hm : m ≤ ops.length) : nextUser ops (k + 1) ≤ nextUser ops m := by
  induction m, hkm using Nat.le_induction with
  | base => exact le_rfl
  | succ m hkm ih => exact (ih (Nat.le_of_succ_le hm)).trans (hnext m hkm hm)

/-- If no user brings its own number and the next number never falls, no number is taken over. -/
theorem not_takenOver_of_nextUser_le (h : InsertedAt (ops.take (k + 1)) .user number i j)
    (hk : k < ops.length) (hids : ∀ op ∈ ops, ∀ d ∈ op.drafts .user, d.id = none)
    (hnext : ∀ n, k < n → n < ops.length → nextUser ops n ≤ nextUser ops (n + 1)) :
    ¬TakenOver ops number k := by
  rintro ⟨i', j', hlater, h'⟩
  have hold : number < nextUser ops (k + 1) := by
    have hlive := h.kept (k + 1) (Nat.lt_succ_of_le h.le_of_take) (by rw [List.length_take]; omega)
    rw [tableAfter_take le_rfl] at hlive
    obtain ⟨row, hrow, rfl⟩ := List.mem_map.mp hlive
    exact lt_nextId hrow
  have hgrown : nextUser ops (k + 1) ≤ nextUser ops i' := nextUser_le hnext hlater h'.lt_length.le
  have hnew : nextUser ops i' ≤ number := by
    obtain ⟨op, rows, added, hop, hbefore, -, hgains, hid⟩ := h'.made
    obtain ⟨row, hrow, rfl⟩ := List.mem_map.mp (List.mem_of_getElem? hid)
    rw [nextUser, hbefore]
    exact hgains.nextId_le (hids op (List.mem_of_getElem? hop)) row hrow
  omega

/-! ### When owner numbers are written -/

/-- What holds at the end of a run and not at its start was brought about by an operation and has
held ever since. -/
theorem exists_last_change {p : ℕ → Prop} (h₀ : ¬p 0) (hn : p n) :
    ∃ k < n, ¬p k ∧ ∀ m, k < m → m ≤ n → p m := by
  induction n with
  | zero => exact absurd hn h₀
  | succ n ih =>
    by_cases hpn : p n
    · obtain ⟨k, hk, hpk, hlater⟩ := ih hpn
      refine ⟨k, hk.trans n.lt_succ_self, hpk, fun m hkm hm => ?_⟩
      rcases hm.lt_or_eq with hlt | rfl
      · exact hlater m hkm (Nat.lt_succ_iff.mp hlt)
      · exact hn
    · refine ⟨n, n.lt_succ_self, hpn, fun m hnm hm => ?_⟩
      obtain rfl : m = n + 1 := le_antisymm hm hnm
      exact hn

theorem ownerAfter_length {repositories : List (Row .repository)} {repository : Row .repository}
    (hrows : (Store.empty.applyAll ops).repositories = some repositories)
    (hmem : repository ∈ repositories) :
    ownerAfter ops repository.id ops.length = some repository.detail := by
  have htable : (Store.empty.applyAll ops).table .repository = some repositories := hrows
  have hfind : findRow repositories repository.id = some repository :=
    (findRow_eq_some_iff (distinctIds_applyAll ops .repository _ htable)).mpr ⟨hmem, rfl⟩
  rw [ownerAfter, tableAfter_length, htable, Option.getD_some, hfind, Option.map_some]

/-- Every repository got its owner number from some operation. -/
theorem exists_ownerWritten {repositories : List (Row .repository)} {repository : Row .repository}
    (hrows : (Store.empty.applyAll ops).repositories = some repositories)
    (hmem : repository ∈ repositories) :
    ∃ k, OwnerWritten ops repository.id repository.detail k := by
  let p (n : ℕ) : Prop := ownerAfter ops repository.id n = some repository.detail
  have hstart : ¬p 0 := by
    simp [p, ownerAfter, tableAfter, Store.applyAll, Store.table_empty, findRow]
  have hend : p ops.length := ownerAfter_length hrows hmem
  obtain ⟨k, hk, hchanged, hkept⟩ := exists_last_change hstart hend
  exact ⟨k, hk, hchanged, hkept⟩

/-! ### Owners in a view -/

section View

variable {τ : Type} [Zero τ] [Add τ] [Sub τ] [LT τ] [DecidableLT τ] [LE τ] [DecidableLE τ]

omit [Zero τ] [Add τ] [Sub τ] [LT τ] [DecidableLT τ] [LE τ] [DecidableLE τ] in
/-- The text of an owner of a store is its name. -/
theorem owner_of_map_nameValue {a : Access} {repository : Int} {name : String}
    (h : ((a.owner repository).map Access.nameValue : Behaviour τ Value) =
      .answers (.ok (.text name))) :
    (a.owner repository : Behaviour τ (Option String)) = .answers (.ok (some name)) := by
  rcases howner : (a.owner repository : Behaviour τ (Option String)) with (u | _ | other) | f
  · rw [howner] at h
    cases h
  · rw [howner] at h
    cases h
  · rw [howner] at h
    cases h
    rfl
  · rw [howner] at h
    cases h

/-- An owner that a view shows is that of the latest repository of the store. -/
theorem Sources.Integrates.owner_of_shown {sources : Sources τ} {a : Access} {r : HostReport}
    {components : List Component} {start limit : τ} {v : View} {name : String}
    (h : sources.Integrates a r components) (hview : (runSources sources start limit).view = .ok v)
    (hname : v.latestRepoUsername = some name) (hne : name ≠ notAvailable) :
    ∃ e, (a.latest .repository : Behaviour τ (Option LatestEntity)) = .answers (.ok (some e)) ∧
      (a.owner e.id : Behaviour τ (Option String)) = .answers (.ok (some name)) := by
  rw [view_eq_outcomeAnswers_view] at hview
  have howner : ownerText (ownerAnswer ((sources.latest .repository).outcome start limit)
      (sources.outcome start limit .owner)) = .ok (some name) := by
    rw [← hname]
    exact ownerText_eq hview
  rcases hl : (sources.latest .repository).outcome start limit with (_ | e) | _ | _
  · simp only [Sources.outcome, hl] at howner
    cases howner
  · obtain ⟨-, hlatest⟩ := Source.outcome_eq_delivered_iff.mp hl
    rw [h.latest] at hlatest
    refine ⟨e, hlatest, ?_⟩
    rcases ho : (sources.owner e.id).outcome (sources.ownerStart start)
      (sources.ownerLimit start limit) with x | _ | _
    · obtain ⟨-, hx⟩ := Source.outcome_eq_delivered_iff.mp ho
      rw [h.owner] at hx
      simp only [Sources.outcome, hl, ho] at howner
      cases x with
      | text other =>
        cases howner
        exact owner_of_map_nameValue hx
      | null => cases howner
      | flag _ => cases howner
      | num _ => cases howner
      | list _ => cases howner
      | dict _ => cases howner
    · simp only [Sources.outcome, hl, ho] at howner
      exact absurd (Option.some.inj (Except.ok.inj howner)).symm hne
    · exact absurd ho Source.outcome_ne_unasked
  · simp only [Sources.outcome, hl] at howner
    exact absurd (Option.some.inj (Except.ok.inj howner)).symm hne
  · exact absurd hl Source.outcome_ne_unasked

end View

/-! ### The owners that are shown -/

/-- Under which name a repository of the store after a run is shown, given the user that its owner
number meant after the `k`-th operation: the one that was inserted at the moment `i`, `j`. -/
structure Attributed (τ : Type) (ops : List Operation) (repositories : List (Row .repository))
    (repository : Row .repository) (k i j : ℕ) : Prop where
  /-- While the user that is meant is there, its name is given. -/
  present : InsertedAt ops .user repository.detail i j → ∃ users user,
    (Store.empty.applyAll ops).users = some users ∧ user ∈ users ∧ user.id = repository.detail ∧
      ((Store.empty.applyAll ops).access.owner repository.id : Behaviour τ (Option String)) =
        .answers (.ok (some user.name))
  /-- No other user's name is given, exactly if the number was not taken over. -/
  right : (∀ name, ((Store.empty.applyAll ops).access.owner repository.id :
      Behaviour τ (Option String)) = .answers (.ok (some name)) →
        InsertedAt ops .user repository.detail i j) ↔ ¬TakenOver ops repository.detail k
  /-- Once that user is deleted there is no owner, unless the number was taken over. -/
  missing : ∀ users, (Store.empty.applyAll ops).users = some users →
    (((Store.empty.applyAll ops).access.owner repository.id : Behaviour τ (Option String)) =
      .answers (.ok none) ↔
        ¬InsertedAt ops .user repository.detail i j ∧ ¬TakenOver ops repository.detail k)
  /-- A dashboard that shows an owner of the repository shows the name that is given. -/
  shown : ∀ [Zero τ] [Add τ] [Sub τ] [LT τ] [DecidableLT τ] [LE τ] [DecidableLE τ]
    (sources : Sources τ) (host : HostReport) (components : List Component) (start limit : τ)
    (v : View), sources.Integrates (Store.empty.applyAll ops).access host components →
      (runSources sources start limit).view = .ok v → IsLatest repositories (some repository) →
        ∀ name, v.latestRepoUsername = some name → name ≠ notAvailable →
          ((Store.empty.applyAll ops).access.owner repository.id : Behaviour τ (Option String)) =
            .answers (.ok (some name))
  /-- If no user brings its own number, the number is not taken over as long as the next number
  never falls. -/
  untaken : (∀ op ∈ ops, ∀ d ∈ op.drafts .user, d.id = none) →
    (∀ n, k < n → n < ops.length → nextUser ops n ≤ nextUser ops (n + 1)) →
      ¬TakenOver ops repository.detail k

section Attribution

variable (τ : Type) {repositories : List (Row .repository)} {repository : Row .repository}
  (hrows : (Store.empty.applyAll ops).repositories = some repositories)
  (hmem : repository ∈ repositories) (hlow : -2 ^ 63 ≤ repository.id)
  (hhigh : repository.id < 2 ^ 63)

include hrows hmem hlow hhigh

/-- The name that is given for the owner is that of the user who has the owner number now. -/
theorem owner_eq_some_iff {name : String} :
    ((Store.empty.applyAll ops).access.owner repository.id : Behaviour τ (Option String)) =
      .answers (.ok (some name)) ↔ ∃ users, (Store.empty.applyAll ops).users = some users ∧
        ∃ user ∈ users, user.id = repository.detail ∧ user.name = name := by
  have hreads : (Store.empty.applyAll ops).ReadsAgree τ :=
    Store.readsAgree_of_distinctIds (distinctIds_applyAll ops)
  have hdistinct : DistinctIds repositories := distinctIds_applyAll ops .repository _ hrows
  rw [hreads.owner _ hlow hhigh, hrows]
  constructor
  · rintro ⟨users, _, husers, ⟨⟩, other, hother, user, huser, hid, howner, hname⟩
    obtain rfl := hdistinct.eq_of_id_eq hother hmem hid
    exact ⟨users, husers, user, huser, howner, hname⟩
  · rintro ⟨users, husers, user, huser, howner, hname⟩
    exact ⟨users, repositories, husers, rfl, repository, hmem, user, huser, rfl, howner, hname⟩

/-- A name is given exactly if some user has the owner number now. -/
theorem exists_owner_iff :
    (∃ name, ((Store.empty.applyAll ops).access.owner repository.id :
      Behaviour τ (Option String)) = .answers (.ok (some name))) ↔
        repository.detail ∈ idsOf ((Store.empty.applyAll ops).table .user) := by
  simp only [owner_eq_some_iff τ hrows hmem hlow hhigh]
  constructor
  · rintro ⟨_, users, husers, user, huser, howner, -⟩
    rw [show (Store.empty.applyAll ops).table .user = some users from husers, ← howner]
    exact List.mem_map_of_mem huser
  · intro hlive
    rcases husers : (Store.empty.applyAll ops).table .user with _ | users
    · rw [husers] at hlive
      cases hlive
    · rw [husers] at hlive
      obtain ⟨user, huser, howner⟩ := List.mem_map.mp hlive
      exact ⟨user.name, users, husers, user, huser, howner, rfl⟩

theorem owner_eq_none_iff {users : List (Row .user)}
    (husers : (Store.empty.applyAll ops).users = some users) :
    ((Store.empty.applyAll ops).access.owner repository.id : Behaviour τ (Option String)) =
      .answers (.ok none) ↔
        repository.detail ∉ idsOf ((Store.empty.applyAll ops).table .user) := by
  rw [← exists_owner_iff τ hrows hmem hlow hhigh,
    Store.owner_of_tables (Store.fitsColumn_iff.mpr ⟨hlow, hhigh⟩) husers hrows]
  rcases (ownerRow users repositories repository.id) with _ | user
  · simp
  · simp

end Attribution

/-- Every repository of a store after a run got its owner number from some operation.  If a user had
the number then, or at some later time, the repository is shown under the name of that user as long
as the user is there, and under no name afterwards, unless the number is taken over: then it is
shown under the name of a user who has nothing to do with it. -/
theorem shown_owner_unless_taken_over (τ : Type) {repositories : List (Row .repository)}
    (hrows : (Store.empty.applyAll ops).repositories = some repositories)
    {repository : Row .repository} (hmem : repository ∈ repositories)
    (hlow : -2 ^ 63 ≤ repository.id) (hhigh : repository.id < 2 ^ 63) :
    ∃ written, OwnerWritten ops repository.id repository.detail written ∧
      ∀ k, written ≤ k → k < ops.length → ∀ i j,
        InsertedAt (ops.take (k + 1)) .user repository.detail i j →
          Attributed τ ops repositories repository k i j := by
  obtain ⟨written, hwritten⟩ := exists_ownerWritten hrows hmem
  refine ⟨written, hwritten, fun k _ hk i j hmeant => ?_⟩
  have hlive : (∃ name, ((Store.empty.applyAll ops).access.owner repository.id :
      Behaviour τ (Option String)) = .answers (.ok (some name))) ↔
        InsertedAt ops .user repository.detail i j ∨ TakenOver ops repository.detail k := by
    rw [exists_owner_iff τ hrows hmem hlow hhigh, takenOver_or_insertedAt_iff hmeant]
  constructor
  · intro hpresent
    obtain ⟨name, hname⟩ := hlive.mpr (Or.inl hpresent)
    obtain ⟨users, husers, user, huser, howner, rfl⟩ :=
      (owner_eq_some_iff τ hrows hmem hlow hhigh).mp hname
    exact ⟨users, user, husers, huser, howner, hname⟩
  · constructor
    · intro hright htaken
      obtain ⟨name, hname⟩ := hlive.mpr (Or.inr htaken)
      exact hmeant.not_takenOver (hright name hname) htaken
    · intro huntaken name hname
      exact (hlive.mp ⟨name, hname⟩).resolve_right huntaken
  · intro users husers
    rw [owner_eq_none_iff τ hrows hmem hlow hhigh husers, takenOver_or_insertedAt_iff hmeant,
      not_or]
  · intro _ _ _ _ _ _ _ sources host components start limit v hsources hview hlatest name hname hne
    obtain ⟨e, he, howner⟩ := hsources.owner_of_shown hview hname hne
    have hreads : (Store.empty.applyAll ops).ReadsAgree τ :=
      Store.readsAgree_of_distinctIds (distinctIds_applyAll ops)
    obtain ⟨rows, row, hrows', hrow, rfl⟩ := (hreads.latest .repository e).mp he
    obtain rfl : repositories = rows := Option.some.inj (hrows.symm.trans hrows')
    have hdistinct : DistinctIds repositories := distinctIds_applyAll ops .repository _ hrows
    obtain rfl : row = repository := Option.some.inj
      (((latestRow_eq_iff hdistinct).mpr hrow).symm.trans
        ((latestRow_eq_iff hdistinct).mpr hlatest))
    exact howner
  · exact not_takenOver_of_nextUser_le hmeant hk

/-- A repository of a given name with a given owner, made at the first moment of 2024. -/
def newRepository (name : String) (owner : Int) : Draft :=
  ⟨none, some name, none, some owner, some ⟨63839664000000000, some 0⟩⟩

/-- Two users, a repository of the first one, and a third user after the first one is deleted. -/
def ownerDeleted : List Operation :=
  [.create, .add .user (newUser "alice"), .add .user (newUser "bob"),
    .add .repository (newRepository "arena" 1), .delete .user 1, .add .user (newUser "carol")]

/-- The row that such a repository becomes under a number. -/
def newRepositoryRow (id : Int) (name : String) (owner : Int) : Row .repository :=
  ⟨id, name, ⟨63839664000000000⟩, owner⟩

/-- The user that came last got a number of its own, so the repository has no owner. -/
theorem deleted_owner_not_replaced :
    (Store.empty.applyAll ownerDeleted).repositories = some [newRepositoryRow 1 "arena" 1] ∧
      (-2 ^ 63 : Int) ≤ 1 ∧ (1 : Int) < 2 ^ 63 ∧
      (∃ i j, InsertedAt (ownerDeleted.take 4) .user 1 i j ∧
        Attributed Int ownerDeleted [newRepositoryRow 1 "arena" 1] (newRepositoryRow 1 "arena" 1)
          3 i j) ∧
      ((Store.empty.applyAll ownerDeleted).access.owner 1 : Behaviour Int (Option String)) =
        .answers (.ok none) := by
  have hrows : (Store.empty.applyAll ownerDeleted).repositories =
      some [newRepositoryRow 1 "arena" 1] := by decide +kernel
  have husers : (Store.empty.applyAll ownerDeleted).users =
      some [newUserRow 2 "bob", newUserRow 3 "carol"] := by decide +kernel
  obtain ⟨written, hwritten, hall⟩ := shown_owner_unless_taken_over Int hrows
    (List.mem_singleton_self _) (by decide) (by decide)
  obtain ⟨i, j, hmeant⟩ : ∃ i j, InsertedAt (ownerDeleted.take 4) .user 1 i j :=
    mem_idsOf_iff_insertedAt.mp (by decide +kernel)
  have hdeleted : ¬InsertedAt ownerDeleted .user 1 i j := by
    intro h
    exact absurd (h.kept 5 (hmeant.lt_length.trans (by decide)) (by decide)) (by decide +kernel)
  have hbefore : written ≤ 3 := by
    by_contra hlater
    refine hwritten.changed ?_
    have hlength : written < 6 := hwritten.lt_length
    interval_cases written <;> decide +kernel
  have hattributed := hall 3 hbefore (by decide) i j hmeant
  have huntaken : ¬TakenOver ownerDeleted 1 3 := by
    refine hattributed.untaken ?_ ?_
    · simp [ownerDeleted, Operation.drafts, draftsOf, Action.drafts, newUser]
    · intro n hn hlength
      have hlength : n < 6 := hlength
      interval_cases n <;> decide +kernel
  refine ⟨hrows, by decide, by decide, ⟨i, j, hmeant, hattributed⟩, ?_⟩
  exact (hattributed.missing _ husers).mpr ⟨hdeleted, huntaken⟩

/-- A user, a repository of this user, and another user after the first one is deleted. -/
def handedOn : List Operation :=
  [.create, .add .user (newUser "alice"), .add .repository (newRepository "arena" 1),
    .delete .user 1, .add .user (newUser "bob")]

/-- A snapshot of a host that tells nothing. -/
def blindSnapshot : Snapshot where
  osName := .error ⟨"os_name", "closed"⟩
  osVersion := .error ⟨"os_version", "closed"⟩
  architecture := .error ⟨"architecture", "closed"⟩
  uptimeSeconds := .error ⟨"uptime_seconds", "closed"⟩
  memoryAvailable := .error ⟨"memory_available_bytes", "closed"⟩
  memoryTotal := .error ⟨"memory_total_bytes", "closed"⟩
  processId := .error ⟨"process_id", "closed"⟩

/-- The user that came last got the number of the deleted one, and the repository, whose owner
number was written before, is shown under the name of that user. -/
theorem number_handed_on_shows_stranger :
    OwnerWritten handedOn 1 1 2 ∧
      (∃ i j, InsertedAt (handedOn.take 3) .user 1 i j ∧ ¬InsertedAt handedOn .user 1 i j) ∧
      ((Store.empty.applyAll handedOn).access.owner 1 : Behaviour Int (Option String)) =
        .answers (.ok (some "bob")) ∧
      ∃ v, (runSources ((Store.empty.applyAll handedOn).access.sources blindSnapshot [])
          (0 : Int) 5).view = .ok v ∧ v.latestRepoUsername = some "bob" := by
  have hstore : Store.empty.applyAll handedOn =
      ⟨some [newUserRow 1 "bob"], some [], some [newRepositoryRow 1 "arena" 1]⟩ := by
    decide +kernel
  obtain ⟨i, j, hmeant⟩ : ∃ i j, InsertedAt (handedOn.take 3) .user 1 i j :=
    mem_idsOf_iff_insertedAt.mp (by decide +kernel)
  refine ⟨⟨by decide, by decide +kernel, ?_⟩, ⟨i, j, hmeant, fun h => ?_⟩, ?_, ?_⟩
  · intro n hn hlength
    have hlength : n ≤ 5 := hlength
    interval_cases n <;> decide +kernel
  · exact absurd (h.kept 4 (hmeant.lt_length.trans (by decide)) (by decide)) (by decide +kernel)
  · rw [hstore]
    rfl
  · rw [hstore]
    exact ⟨_, rfl, rfl⟩

end ForgeDashboard
