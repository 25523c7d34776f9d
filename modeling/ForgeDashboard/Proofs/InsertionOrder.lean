import ForgeDashboard.Proofs.StoreReads

/-!
# Numbers follow the order of insertion

If no draft brings its own number, a new row gets a number above those of all rows that are there,
even if a deleted row had that number before.  So among the rows that are there the order of numbers
is the order of insertion, and the latest entity is, of the rows of the greatest instant, the one
that was inserted last.

The order of insertion is said of the run alone: a row was made by a draft of an operation, and has
been in the table since.

## Main definitions

* `InsertedAt` : the moment at which the row of a number was inserted.
* `InsertedBefore` : a row was inserted before another one.
* `LastInserted` : of the rows of the greatest instant, the one that was inserted last.
* `InOrder` : rows in the order of their insertion.

## Main results

* `inOrder_applyAll` : a table holds its rows in the order of their insertion.
* `latest_is_last_inserted` : numbers follow that order, and so does the latest entity.
-/

namespace ForgeDashboard

variable {kind : EntityKind} {ops : List Operation}

/-- The numbers of the rows of a table, in the order of the rows. -/
def idsOf (t : Table kind) : List Int := (t.getD []).map (·.id)

/-- The table of a kind after the first operations of a run. -/
def tableAfter (ops : List Operation) (kind : EntityKind) (n : ℕ) : Table kind :=
  (Store.empty.applyAll (ops.take n)).table kind

/-- The row of a number was made of the `j`-th draft of the `i`-th operation of a run, and has been
in the table ever since. -/
structure InsertedAt (ops : List Operation) (kind : EntityKind) (id : Int) (i j : ℕ) : Prop where
  made : ∃ op rows added, ops[i]? = some op ∧ tableAfter ops kind i = some rows ∧
    tableAfter ops kind (i + 1) = some (rows ++ added) ∧
    Gains (some rows) (op.drafts kind) (some (rows ++ added)) ∧
    (added.map (·.id))[j]? = some id
  kept : ∀ n, i < n → n ≤ ops.length → id ∈ idsOf (tableAfter ops kind n)

/-- The row of a number was inserted before that of another one: by an earlier operation, or by an
earlier draft of the same operation. -/
def InsertedBefore (ops : List Operation) (kind : EntityKind) (x y : Int) : Prop :=
  ∃ i j k l, InsertedAt ops kind x i j ∧ InsertedAt ops kind y k l ∧ (i < k ∨ i = k ∧ j < l)

/-- A row is, of those of the greatest instant, the one that was inserted last. -/
def LastInserted (ops : List Operation) (rows : List (Row kind)) (row : Row kind) : Prop :=
  row ∈ rows ∧ ∀ other ∈ rows, other ≠ row →
    other.createdAt.micros < row.createdAt.micros ∨
      other.createdAt.micros = row.createdAt.micros ∧ InsertedBefore ops kind other.id row.id

/-! ### New numbers -/

/-- A new number is greater than those of all rows. -/
theorem lt_nextId {rows : List (Row kind)} {row : Row kind} (h : row ∈ rows) :
    row.id < nextId rows := by
  have hid : row.id ∈ rows.map (·.id) := List.mem_map_of_mem h
  rcases hmax : (rows.map (·.id)).max? with _ | m
  · rw [List.max?_eq_none_iff.mp hmax] at hid
    exact absurd hid List.not_mem_nil
  · have hle : row.id ≤ m := (List.max?_eq_some_iff.mp hmax).2 _ hid
    have hnext : nextId rows = m + 1 := by simp only [nextId, hmax]
    omega

/-- The numbers of a table increase if no draft brings its own. -/
theorem rowInvariant_increasing :
    RowInvariant (fun op => ∀ d ∈ op.drafts kind, d.id = none) fun rows : List (Row kind) =>
      (rows.map (·.id)).Pairwise (· < ·) where
  nil := .nil
  add := by
    intro op rows row d hop hd hid _ hrows
    rw [hop d hd, Option.getD_none] at hid
    rw [List.map_append, List.pairwise_append]
    refine ⟨hrows, List.pairwise_singleton _ _, ?_⟩
    simp only [List.mem_map, List.mem_singleton]
    rintro _ ⟨other, hother, rfl⟩ _ ⟨_, rfl, rfl⟩
    rw [hid]
    exact lt_nextId hother
  change := by
    intro id c rows old new d _ _ _ hid _ hrows
    rw [ids_of_change hid]
    exact hrows
  delete := fun id hrows => hrows.sublist (List.filter_sublist.map _)

/-! ### What a step does to the numbers -/

/-- A step keeps some of the numbers in their order, or the table gains the drafts. -/
theorem TableStep.idsOf_cases {op : Operation} {t t' : Table kind} (h : TableStep op t t') :
    (idsOf t').Sublist (idsOf t) ∨ ∃ rows added, t = some rows ∧ t' = some (rows ++ added) ∧
      Gains (some rows) (op.drafts kind) (some (rows ++ added)) := by
  cases h with
  | same => exact Or.inl (.refl _)
  | gain hgains =>
    rcases t with _ | rows
    · obtain rfl : t' = none := by simpa using hgains.isSome_eq
      exact Or.inl (.refl _)
    · obtain ⟨added, rfl, -⟩ := hgains.exists_append
      exact Or.inr ⟨rows, added, rfl, rfl, hgains⟩
  | create => exact Or.inl (List.nil_sublist _)
  | drop => exact Or.inl (List.nil_sublist _)
  | change _ _ _ hid _ =>
    left
    rw [idsOf, Option.getD_some, ids_of_change hid]
    exact .refl _
  | delete id => exact Or.inl (List.filter_sublist.map _)

theorem tableAfter_length (ops : List Operation) (kind : EntityKind) :
    tableAfter ops kind ops.length = (Store.empty.applyAll ops).table kind := by
  rw [tableAfter, List.take_length]

theorem tableAfter_concat {n : ℕ} (hn : n ≤ ops.length) (op : Operation) :
    tableAfter (ops ++ [op]) kind n = tableAfter ops kind n := by
  rw [tableAfter, tableAfter, List.take_append_of_le_length hn]

/-- The last operation of a run is a step. -/
theorem tableAfter_concat_step (ops : List Operation) (op : Operation) (kind : EntityKind) :
    TableStep op (tableAfter ops kind ops.length)
      (tableAfter (ops ++ [op]) kind (ops.length + 1)) := by
  have hlength : ops.length + 1 = (ops ++ [op]).length := by simp
  rw [hlength, tableAfter_length, tableAfter_length, Store.applyAll_append]
  exact Store.apply_tableStep _ op kind

theorem nodup_idsOf_tableAfter (ops : List Operation) (kind : EntityKind) (n : ℕ) :
    (idsOf (tableAfter ops kind n)).Nodup := by
  rcases htable : tableAfter ops kind n with _ | rows
  · exact List.nodup_nil
  · exact distinctIds_applyAll _ kind rows htable

/-! ### Moments of insertion -/

section Moments

variable {id x y : Int} {i j k l : ℕ} {op : Operation}

theorem InsertedAt.lt_length (h : InsertedAt ops kind id i j) : i < ops.length := by
  obtain ⟨op, _, _, hop, -⟩ := h.made
  exact (List.getElem?_eq_some_iff.mp hop).1

/-- Before the moment of its insertion a number is not in the table. -/
theorem InsertedAt.notMem_before (h : InsertedAt ops kind id i j) :
    id ∉ idsOf (tableAfter ops kind i) := by
  obtain ⟨op, rows, added, -, hbefore, hafter, -, hid⟩ := h.made
  have hnodup := nodup_idsOf_tableAfter ops kind (i + 1)
  rw [hafter, idsOf, Option.getD_some, List.map_append] at hnodup
  rw [hbefore]
  intro hmem
  exact List.disjoint_of_nodup_append hnodup hmem (List.mem_of_getElem? hid)

/-- A row is inserted once. -/
theorem InsertedAt.unique (h : InsertedAt ops kind id i j) (h' : InsertedAt ops kind id k l) :
    i = k ∧ j = l := by
  rcases lt_trichotomy i k with hlt | rfl | hlt
  · exact absurd (h.kept k hlt h'.lt_length.le) h'.notMem_before
  · obtain ⟨_, rows, added, -, hbefore, hafter, -, hid⟩ := h.made
    obtain ⟨_, rows', added', -, hbefore', hafter', -, hid'⟩ := h'.made
    obtain rfl : rows = rows' := Option.some.inj (hbefore.symm.trans hbefore')
    obtain rfl : added = added' :=
      List.append_cancel_left (Option.some.inj (hafter.symm.trans hafter'))
    have hnodup := nodup_idsOf_tableAfter ops kind (i + 1)
    rw [hafter, idsOf, Option.getD_some, List.map_append] at hnodup
    obtain ⟨hj, -⟩ := List.getElem?_eq_some_iff.mp hid
    have hadded : (added.map (·.id)).Nodup := (List.nodup_append.mp hnodup).2.1
    exact ⟨rfl, (List.getElem?_inj hj hadded).mp (hid.trans hid'.symm)⟩
  · exact absurd (h'.kept i hlt h.lt_length.le) h.notMem_before

theorem InsertedBefore.asymm (h : InsertedBefore ops kind x y) :
    ¬InsertedBefore ops kind y x := by
  rintro ⟨k', l', i', j', hy', hx', hlt'⟩
  obtain ⟨i, j, k, l, hx, hy, hlt⟩ := h
  obtain ⟨rfl, rfl⟩ := hx.unique hx'
  obtain ⟨rfl, rfl⟩ := hy.unique hy'
  omega

/-- A row that is still there after another operation was inserted when it was. -/
theorem InsertedAt.concat (h : InsertedAt ops kind id i j)
    (hlive : id ∈ idsOf (tableAfter (ops ++ [op]) kind (ops.length + 1))) :
    InsertedAt (ops ++ [op]) kind id i j where
  made := by
    have hi := h.lt_length
    obtain ⟨op', rows, added, hop, hbefore, hafter, hgains, hid⟩ := h.made
    refine ⟨op', rows, added, ?_, ?_, ?_, hgains, hid⟩
    · rw [List.getElem?_append_left hi, hop]
    · rw [tableAfter_concat hi.le, hbefore]
    · rw [tableAfter_concat hi, hafter]
  kept := by
    intro n hin hn
    rw [List.length_append, List.length_singleton] at hn
    rcases hn.lt_or_eq with hlt | rfl
    · rw [tableAfter_concat (Nat.lt_succ_iff.mp hlt)]
      exact h.kept n hin (Nat.lt_succ_iff.mp hlt)
    · exact hlive

theorem InsertedBefore.concat (h : InsertedBefore ops kind x y)
    (hx : x ∈ idsOf (tableAfter (ops ++ [op]) kind (ops.length + 1)))
    (hy : y ∈ idsOf (tableAfter (ops ++ [op]) kind (ops.length + 1))) :
    InsertedBefore (ops ++ [op]) kind x y := by
  obtain ⟨i, j, k, l, hxi, hyk, hlt⟩ := h
  exact ⟨i, j, k, l, hxi.concat hx, hyk.concat hy, hlt⟩

/-- The rows that the last operation of a run adds are inserted by it. -/
theorem insertedAt_of_gains {rows added : List (Row kind)}
    (hbefore : tableAfter ops kind ops.length = some rows)
    (hafter : tableAfter (ops ++ [op]) kind (ops.length + 1) = some (rows ++ added))
    (hgains : Gains (some rows) (op.drafts kind) (some (rows ++ added)))
    (hid : (added.map (·.id))[j]? = some id) :
    InsertedAt (ops ++ [op]) kind id ops.length j where
  made := by
    refine ⟨op, rows, added, by simp, ?_, hafter, hgains, hid⟩
    rw [tableAfter_concat le_rfl, hbefore]
  kept := by
    intro n hn hle
    rw [List.length_append, List.length_singleton] at hle
    obtain rfl : n = ops.length + 1 := by omega
    rw [hafter, idsOf, Option.getD_some, List.map_append]
    exact List.mem_append_right _ (List.mem_of_getElem? hid)

end Moments

/-! ### Rows in the order of insertion -/

/-- Numbers whose rows were inserted at some moment each, and in this order. -/
structure InOrder (ops : List Operation) (kind : EntityKind) (ids : List Int) : Prop where
  inserted : ∀ id ∈ ids, ∃ i j, InsertedAt ops kind id i j
  ordered : ids.Pairwise (InsertedBefore ops kind)

namespace InOrder

variable {ids ids' : List Int} {op : Operation}

theorem sublist (h : InOrder ops kind ids) (hsub : ids'.Sublist ids) : InOrder ops kind ids' where
  inserted := fun id hid => h.inserted id (hsub.subset hid)
  ordered := h.ordered.sublist hsub

/-- Rows that are still there after another operation are in the order in which they were. -/
theorem concat (h : InOrder ops kind ids)
    (hlive : ids ⊆ idsOf (tableAfter (ops ++ [op]) kind (ops.length + 1))) :
    InOrder (ops ++ [op]) kind ids where
  inserted := by
    intro id hid
    obtain ⟨i, j, hij⟩ := h.inserted id hid
    exact ⟨i, j, hij.concat (hlive hid)⟩
  ordered := h.ordered.imp_of_mem fun hx hy hxy => hxy.concat (hlive hx) (hlive hy)

/-- Rows that the last operation of a run adds come after those that were there. -/
theorem concat_of_gains {rows added : List (Row kind)} (h : InOrder ops kind (rows.map (·.id)))
    (hbefore : tableAfter ops kind ops.length = some rows)
    (hafter : tableAfter (ops ++ [op]) kind (ops.length + 1) = some (rows ++ added))
    (hgains : Gains (some rows) (op.drafts kind) (some (rows ++ added))) :
    InOrder (ops ++ [op]) kind (rows.map (·.id) ++ added.map (·.id)) := by
  have hlive : rows.map (·.id) ⊆ idsOf (tableAfter (ops ++ [op]) kind (ops.length + 1)) := by
    rw [hafter, idsOf, Option.getD_some, List.map_append]
    exact List.subset_append_left _ _
  have hold := h.concat hlive
  have hnew {j : ℕ} (hj : j < (added.map (·.id)).length) :
      InsertedAt (ops ++ [op]) kind (added.map (·.id))[j] ops.length j :=
    insertedAt_of_gains hbefore hafter hgains (List.getElem?_eq_getElem hj)
  constructor
  · intro id hid
    rcases List.mem_append.mp hid with hrow | hrow
    · exact hold.inserted id hrow
    · obtain ⟨j, hj, rfl⟩ := List.mem_iff_getElem.mp hrow
      exact ⟨_, j, hnew hj⟩
  · refine List.pairwise_append.mpr ⟨hold.ordered, ?_, ?_⟩
    · rw [List.pairwise_iff_getElem]
      intro j l hj hl hjl
      exact ⟨_, j, _, l, hnew hj, hnew hl, Or.inr ⟨rfl, hjl⟩⟩
    · intro x hx y hy
      obtain ⟨i, j, hij⟩ := h.inserted x hx
      obtain ⟨l, hl, rfl⟩ := List.mem_iff_getElem.mp hy
      exact ⟨i, j, _, l, hij.concat (hlive hx), hnew hl, Or.inl hij.lt_length⟩

/-- What the last operation of a run keeps. -/
theorem concat_step (h : InOrder ops kind (idsOf (tableAfter ops kind ops.length)))
    (op : Operation) :
    InOrder (ops ++ [op]) kind (idsOf (tableAfter (ops ++ [op]) kind (ops.length + 1))) := by
  rcases (tableAfter_concat_step ops op kind).idsOf_cases with
    hsub | ⟨rows, added, hbefore, hafter, hgains⟩
  · exact (h.sublist hsub).concat (List.Subset.refl _)
  · rw [hbefore] at h
    have hboth := h.concat_of_gains hbefore hafter hgains
    rwa [hafter, idsOf, Option.getD_some, List.map_append]

end InOrder

/-- A table holds its rows in the order of their insertion. -/
theorem inOrder_applyAll (ops : List Operation) (kind : EntityKind) :
    InOrder ops kind (idsOf ((Store.empty.applyAll ops).table kind)) := by
  induction ops using List.reverseRecOn with
  | nil =>
    rw [Store.applyAll, List.foldl_nil, Store.table_empty]
    exact ⟨by simp [idsOf], .nil⟩
  | append_singleton ops op ih =>
    rw [← tableAfter_length] at ih ⊢
    rw [List.length_append, List.length_singleton]
    exact ih.concat_step op

/-! ### Numbers and moments -/

section Increasing

variable (h : ∀ op ∈ ops, ∀ d ∈ op.drafts kind, d.id = none)

include h

theorem ids_increasing :
    (idsOf ((Store.empty.applyAll ops).table kind)).Pairwise (· < ·) := by
  have hrows := rowInvariant_increasing.applyAll h
  rcases htable : (Store.empty.applyAll ops).table kind with _ | rows
  · exact .nil
  · exact hrows rows htable

/-- The order of numbers is the order of insertion. -/
theorem lt_iff_insertedBefore {x y : Int}
    (hx : x ∈ idsOf ((Store.empty.applyAll ops).table kind))
    (hy : y ∈ idsOf ((Store.empty.applyAll ops).table kind)) :
    x < y ↔ InsertedBefore ops kind x y := by
  -- Of two numbers one stands first, and then it is smaller and was inserted before.
  have hboth := (ids_increasing h).and (inOrder_applyAll ops kind).ordered
  have hcases : ∀ a ∈ idsOf ((Store.empty.applyAll ops).table kind),
      ∀ b ∈ idsOf ((Store.empty.applyAll ops).table kind),
      (a < b ∧ InsertedBefore ops kind a b) ∨ a = b ∨ (b < a ∧ InsertedBefore ops kind b a) := by
    refine List.Pairwise.forall_of_forall_of_flip (fun _ _ => Or.inr (Or.inl rfl))
      (hboth.imp Or.inl) (hboth.imp fun hab => Or.inr (Or.inr hab))
  rcases hcases x hx y hy with ⟨hlt, hxy⟩ | rfl | ⟨hlt, hyx⟩
  · exact iff_of_true hlt hxy
  · exact iff_of_false (lt_irrefl _) fun hxx => hxx.asymm hxx
  · exact iff_of_false hlt.not_gt fun hxy => hxy.asymm hyx

/-- The latest row is, of those of the greatest instant, the one that was inserted last. -/
theorem isLatest_iff_lastInserted {rows : List (Row kind)} {row : Row kind}
    (hrows : (Store.empty.applyAll ops).table kind = some rows) :
    IsLatest rows (some row) ↔ LastInserted ops rows row := by
  have hdistinct : DistinctIds rows := distinctIds_applyAll ops kind rows hrows
  have hmem {other : Row kind} (hother : other ∈ rows) :
      other.id ∈ idsOf ((Store.empty.applyAll ops).table kind) := by
    rw [hrows]
    exact List.mem_map_of_mem hother
  refine and_congr_right fun hrow => forall₂_congr fun other hother => ?_
  rw [← lt_iff_insertedBefore h (hmem hother) (hmem hrow), Row.NotAfter]
  constructor
  · intro hle hne
    have hid : other.id ≠ row.id := fun heq => hne (hdistinct.eq_of_id_eq hother hrow heq)
    omega
  · intro hlt
    by_cases heq : other = row
    · subst heq
      omega
    · have := hlt heq
      omega

end Increasing

/-- If no draft of a kind brings its own number, then after every run each row of that kind was
inserted at some moment, the order of numbers is the order of insertion, and the latest entity is,
of the rows of the greatest instant, the one that was inserted last. -/
theorem latest_is_last_inserted (τ : Type)
    (h : ∀ op ∈ ops, ∀ d ∈ op.drafts kind, d.id = none) :
    (∀ x ∈ idsOf ((Store.empty.applyAll ops).table kind), ∃ i j, InsertedAt ops kind x i j) ∧
    (∀ x ∈ idsOf ((Store.empty.applyAll ops).table kind),
      ∀ y ∈ idsOf ((Store.empty.applyAll ops).table kind),
        x < y ↔ InsertedBefore ops kind x y) ∧
    (((Store.empty.applyAll ops).access.latest kind : Behaviour τ (Option LatestEntity)) =
      .answers (.ok none) ↔ (Store.empty.applyAll ops).table kind = some []) ∧
    ∀ e, ((Store.empty.applyAll ops).access.latest kind : Behaviour τ (Option LatestEntity)) =
      .answers (.ok (some e)) ↔
        ∃ rows row, (Store.empty.applyAll ops).table kind = some rows ∧
          LastInserted ops rows row ∧ e = ⟨kind, row.id, .text row.name⟩ := by
  have hreads : (Store.empty.applyAll ops).ReadsAgree τ :=
    Store.readsAgree_of_distinctIds (distinctIds_applyAll ops)
  refine ⟨(inOrder_applyAll ops kind).inserted,
    fun x hx y hy => lt_iff_insertedBefore h hx hy, ?_, fun e => ?_⟩
  · rw [hreads.noLatest, hreads.count]
    constructor
    · rintro ⟨rows, hrows, hlength⟩
      rw [hrows, List.length_eq_zero_iff.mp (Int.natCast_eq_zero.mp hlength.symm)]
    · intro hrows
      exact ⟨[], hrows, rfl⟩
  · rw [hreads.latest]
    refine exists_congr fun rows => exists_congr fun row => and_congr_right fun hrows => ?_
    rw [isLatest_iff_lastInserted h hrows]

/-- A user of a given name, made at the first moment of 2024. -/
def newUser (name : String) : Draft :=
  ⟨none, some name, none, none, some ⟨63839664000000000, some 0⟩⟩

/-- Of two users that were made at the same instant the second is deleted; after a unit of work that
fails, a third one takes over the number. -/
def takenOver : List Operation :=
  [.create, .act [.add .user (newUser "alice"), .add .user (newUser "bob")], .delete .user 2,
    .act [.add .user (newUser "dave"), .flush, .fail (.raised .runtime none)],
    .add .user (newUser "carol")]

/-- The row that such a user becomes under a number. -/
def newUserRow (id : Int) (name : String) : Row .user := ⟨id, name, ⟨63839664000000000⟩, none⟩

/-- The user that took over the number was inserted last, and is the latest one. -/
theorem taken_over_number_is_latest :
    (∀ op ∈ takenOver, ∀ d ∈ op.drafts .user, d.id = none) ∧
      InsertedBefore takenOver .user 1 2 ∧
      ((Store.empty.applyAll takenOver).access.latest .user :
        Behaviour Int (Option LatestEntity)) =
          .answers (.ok (some ⟨.user, 2, .text "carol"⟩)) := by
  have hfree : ∀ op ∈ takenOver, ∀ d ∈ op.drafts .user, d.id = none := by
    simp [takenOver, Operation.drafts, draftsOf, Action.drafts, newUser]
  have husers : (Store.empty.applyAll takenOver).table .user =
      some [newUserRow 1 "alice", newUserRow 2 "carol"] := by
    decide +kernel
  obtain ⟨-, hbefore, -, hlatest⟩ := latest_is_last_inserted Int hfree
  rw [husers] at hbefore
  have hfirst : InsertedBefore takenOver .user 1 2 :=
    (hbefore 1 (by decide) 2 (by decide)).mp (by decide)
  refine ⟨hfree, hfirst, (hlatest _).mpr ⟨_, newUserRow 2 "carol", husers, ⟨by simp, ?_⟩, rfl⟩⟩
  intro other hother hne
  rcases List.mem_pair.mp hother with rfl | rfl
  · exact Or.inr ⟨rfl, hfirst⟩
  · exact absurd rfl hne

end ForgeDashboard
