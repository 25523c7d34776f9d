import ForgeDashboard.Proofs.RowOrder

/-!
# The constraints of a store

What is written to a table keeps the constraints that the table declares: numbers are distinct, so
are the names of users and of groups, nothing required is missing, and time stamps denote instants
of the years 1 to 9999.  What an operation would write if nothing were checked may break them; then
the operation fails and changes nothing.  If it succeeds it writes just that.

## Main definitions

* `KeepsConstraints`, `Store.Sound` : the constraints of a table, and of all tables.
* `Operation.unchecked` : what an operation would make of a table if nothing were checked.
* `Draft.Describes` : a row is the one that was written.

## Main results

* `Store.SoundTables.apply`, `Store.soundTables_applyAll` : a step and a run keep the constraints.
* `Store.SoundTables.holds_of_apply` : an operation that succeeds does what it would do unchecked.
* `constraints_always_hold` : the constraints are kept, and the order of rows does not matter.
-/

namespace ForgeDashboard

variable {kind : EntityKind}

/-! ### Constraints -/

/-- What is written to the table of a kind keeps the constraints that the table declares. -/
structure KeepsConstraints (kind : EntityKind) (records : List Draft) : Prop where
  numbered : ∀ d ∈ records, d.id ≠ none
  distinctIds : (records.map (·.id)).Nodup
  named : ∀ d ∈ records, d.name ≠ none
  distinctNames : kind = .user ∨ kind = .group → (records.map (·.name)).Nodup
  owned : kind = .repository → ∀ d ∈ records, d.ownerId ≠ none
  dated : ∀ d ∈ records, ∃ t i, d.createdAt = some t ∧ t.Denotes i ∧
    0 ≤ i.micros ∧ i.micros < daysBeforeYear 10000 * microsPerDay

/-- What is written in the table of a kind, unless the table is missing. -/
def Store.records (s : Store) (kind : EntityKind) : Option (List Draft) :=
  (s.table kind).map (·.map Row.draft)

/-- All tables keep their constraints. -/
def Store.Sound (s : Store) : Prop :=
  ∀ kind, ∀ records ∈ s.records kind, KeepsConstraints kind records

/-! ### Operations without checks -/

/-- The next free number beside records. -/
def nextNumber (records : List Draft) : Int :=
  match (records.filterMap (·.id)).max? with
  | some m => m + 1
  | none => 1

/-- Records and one more, under its own number or the next free one. -/
def appendRecord (records : List Draft) (d : Draft) : List Draft :=
  records ++ [{ d with id := some (d.id.getD (nextNumber records)) }]

/-- A record with changes, whatever they are. -/
def Change.write (c : Change) (d : Draft) : Draft :=
  { d with
    name := c.name.getD d.name
    createdAt := c.createdAt.getD d.createdAt
    ownerId := c.ownerId.getD d.ownerId }

/-- Records, with changes of the one of a number. -/
def changeRecord (id : Int) (c : Change) (records : List Draft) : List Draft :=
  records.map fun d => if d.id = some id then c.write d else d

/-- Records without the one of a number. -/
def deleteRecord (id : Int) (records : List Draft) : List Draft :=
  records.filter (·.id ≠ some id)

/-- What an operation would make of the table of a kind if nothing were checked. -/
def Operation.unchecked (kind : EntityKind) (t : Option (List Draft)) :
    Operation → Option (List Draft)
  | .create => some (t.getD [])
  | .drop other => if other = kind then none else t
  | .add other d => t.map fun records =>
    ((Operation.add other d).drafts kind).foldl appendRecord records
  | .act actions => t.map fun records =>
    ((Operation.act actions).drafts kind).foldl appendRecord records
  | .change other id c => if other = kind then t.map (changeRecord id c) else t
  | .delete other id => if other = kind then t.map (deleteRecord id) else t

/-! ### Rows that were written -/

/-- A row is what was written as a record. -/
structure Draft.Describes (d : Draft) (row : Row kind) : Prop where
  id : d.id = some row.id
  name : d.name = some row.name
  createdAt : d.instant = .ok (some row.createdAt)
  detail : d.detail kind = .ok row.detail

theorem Stamp.isSupported_of_instant {t : Stamp} {i : Instant} (h : t.instant = .ok i) :
    i.isSupported = true := by
  obtain ⟨clock, _ | ahead⟩ := t
  · cases h
  · rw [instant] at h
    dsimp only at h
    split_ifs at h with hsupported
    cases h
    exact hsupported

theorem Draft.isSupported_of_instant {d : Draft} {i : Instant} (h : d.instant = .ok (some i)) :
    i.isSupported = true := by
  obtain ⟨t, -, ht⟩ := exists_stamp_of_instant h
  exact Stamp.isSupported_of_instant ht

theorem Row.draft_instant {row : Row kind} (h : row.createdAt.isSupported = true) :
    row.draft.instant = .ok (some row.createdAt) := by
  have hinstant : (Stamp.ofInstant row.createdAt).instant = .ok row.createdAt := by
    simp only [Stamp.ofInstant, Stamp.instant, Int.sub_zero, if_pos h]
  show some <$> (Stamp.ofInstant row.createdAt).instant = _
  rw [hinstant]
  rfl

theorem Row.draft_describes {row : Row kind} (h : row.createdAt.isSupported = true) :
    row.draft.Describes row where
  id := rfl
  name := rfl
  createdAt := draft_instant h
  detail := by
    cases kind with
    | user => rfl
    | group => rfl
    | repository => rfl

section Describes

variable {records : List Draft} {rows : List (Row kind)}

theorem map_eq_of_describes {α : Type} {f : Draft → Option α} {g : Row kind → α}
    (hfg : ∀ d : Draft, ∀ row : Row kind, d.Describes row → f d = some (g row))
    (h : List.Forall₂ Draft.Describes records rows) :
    records.map f = (rows.map g).map some := by
  induction h with
  | nil => rfl
  | cons hrow _ ih => rw [List.map_cons, hfg _ _ hrow, ih, List.map_cons, List.map_cons]

theorem exists_describes {d : Draft} (h : List.Forall₂ Draft.Describes records rows)
    (hd : d ∈ records) : ∃ row : Row kind, d.Describes row := by
  induction h with
  | nil => cases hd
  | cons hrow _ ih =>
    rcases List.mem_cons.mp hd with rfl | hd
    · exact ⟨_, hrow⟩
    · exact ih hd

theorem nextNumber_of_describes (h : List.Forall₂ Draft.Describes records rows) :
    nextNumber records = nextId rows := by
  have hids : records.filterMap (·.id) = rows.map (·.id) := by
    calc records.filterMap (·.id) = (records.map (·.id)).filterMap id := by
          rw [List.filterMap_map, Function.id_comp]
      _ = rows.map (·.id) := by
          rw [map_eq_of_describes (fun _ _ hrow => hrow.id) h]
          simp
  rw [nextNumber, hids]
  rfl

/-- The rows of a table are as its constraints demand. -/
structure SoundRows (rows : List (Row kind)) : Prop where
  distinctIds : DistinctIds rows
  distinctNames : kind.hasUniqueName = true → (rows.map (·.name)).Nodup
  isSupported : ∀ row ∈ rows, row.createdAt.isSupported = true

/-- What was written as sound rows keeps the constraints. -/
theorem SoundRows.keepsConstraints (hrows : SoundRows rows)
    (h : List.Forall₂ Draft.Describes records rows) : KeepsConstraints kind records where
  numbered := by
    intro d hd
    obtain ⟨row, hrow⟩ := exists_describes h hd
    simp [hrow.id]
  distinctIds := by
    rw [map_eq_of_describes (fun _ _ hrow => hrow.id) h]
    exact hrows.distinctIds.map (Option.some_injective _)
  named := by
    intro d hd
    obtain ⟨row, hrow⟩ := exists_describes h hd
    simp [hrow.name]
  distinctNames := by
    intro hkind
    have hunique : kind.hasUniqueName = true := by
      rcases hkind with rfl | rfl
      · rfl
      · rfl
    rw [map_eq_of_describes (fun _ _ hrow => hrow.name) h]
    exact (hrows.distinctNames hunique).map (Option.some_injective _)
  owned := by
    rintro rfl d hd
    obtain ⟨row, hrow⟩ := exists_describes h hd
    exact Option.ne_none_iff_exists'.mpr ⟨_, requireColumn_eq_ok_iff.mp hrow.detail⟩
  dated := by
    intro d hd
    obtain ⟨row, hrow⟩ := exists_describes h hd
    obtain ⟨t, ht, hinstant⟩ := Draft.exists_stamp_of_instant hrow.createdAt
    have hsupported := Stamp.isSupported_of_instant hinstant
    rw [Instant.isSupported, Bool.and_eq_true, decide_eq_true_eq, decide_eq_true_eq] at hsupported
    exact ⟨t, row.createdAt, ht, Stamp.denotes_of_instant hinstant, hsupported⟩

theorem SoundRows.describes (h : SoundRows rows) :
    List.Forall₂ Draft.Describes (rows.map Row.draft) rows :=
  List.forall₂_map_left_iff.mpr <| List.forall₂_same.mpr fun row hrow =>
    Row.draft_describes (h.isSupported row hrow)

end Describes

/-! ### What no step breaks -/

/-- A row that is changed in its place keeps the names distinct if its new name is not taken. -/
theorem nodup_names_of_change {rows : List (Row kind)} {old new : Row kind}
    (hids : DistinctIds rows) (hnames : (rows.map (·.name)).Nodup)
    (hfresh : ∀ other ∈ rows.filter (·.id != old.id), other.name ≠ new.name) :
    ((rows.map fun row => if row.id == old.id then new else row).map (·.name)).Nodup := by
  have hother {row : Row kind} (hrow : row ∈ rows) (hne : row.id ≠ old.id) :
      row.name ≠ new.name := hfresh row (List.mem_filter.mpr ⟨hrow, by simpa using hne⟩)
  rw [List.map_map]
  refine List.Nodup.map_on (fun a ha b hb hab => ?_) (List.Nodup.of_map _ hids)
  rw [Function.comp_apply, Function.comp_apply] at hab
  by_cases haold : a.id = old.id
  · by_cases hbold : b.id = old.id
    · exact hids.eq_of_id_eq ha hb (haold.trans hbold.symm)
    · rw [if_pos (beq_iff_eq.mpr haold), if_neg (by simpa using hbold)] at hab
      exact absurd hab.symm (hother hb hbold)
  · rw [if_neg (by simpa using haold)] at hab
    by_cases hbold : b.id = old.id
    · rw [if_pos (beq_iff_eq.mpr hbold)] at hab
      exact absurd hab (hother ha haold)
    · rw [if_neg (by simpa using hbold)] at hab
      exact List.inj_on_of_nodup_map hnames ha hb hab

theorem rowInvariant_soundRows :
    RowInvariant (fun _ => True) fun rows : List (Row kind) => SoundRows rows where
  nil := ⟨List.nodup_nil, fun _ => List.nodup_nil, by simp⟩
  add := by
    intro op rows row d hop hd hid hrow hrows
    refine ⟨rowInvariant_distinctIds.add hop hd hid hrow hrows.distinctIds, fun hunique => ?_, ?_⟩
    · have hfresh : row.name ∉ rows.map (·.name) := by
        simpa using hrow.freshName hunique
      rw [List.map_append, List.map_singleton, ← List.concat_eq_append]
      exact (hrows.distinctNames hunique).concat hfresh
    · exact List.forall_mem_append.mpr ⟨hrows.isSupported,
        List.forall_mem_singleton.mpr (Draft.isSupported_of_instant hrow.createdAt)⟩
  change := by
    intro id c rows old new d _ _ _ hid hnew hrows
    refine ⟨?_, fun hunique => ?_, List.forall_mem_map.mpr fun row hrow => ?_⟩
    · rw [DistinctIds, ids_of_change hid]
      exact hrows.distinctIds
    · exact nodup_names_of_change hrows.distinctIds (hrows.distinctNames hunique)
        (hnew.freshName hunique)
    · split_ifs
      · exact Draft.isSupported_of_instant hnew.createdAt
      · exact hrows.isSupported row hrow
  delete := fun id hrows =>
    ⟨rowInvariant_distinctIds.delete id hrows.distinctIds,
      fun hunique => (hrows.distinctNames hunique).sublist (List.filter_sublist.map _),
      fun row hrow => hrows.isSupported row (List.mem_of_mem_filter hrow)⟩

namespace Store

variable {s : Store}

/-- The rows of all tables are as the constraints demand. -/
def SoundTables (s : Store) : Prop := ∀ kind, ∀ rows ∈ s.table kind, SoundRows rows

theorem records_of_table {rows : List (Row kind)} (h : s.table kind = some rows) :
    s.records kind = some (rows.map Row.draft) := congrArg (Option.map _) h

theorem SoundTables.sound (h : s.SoundTables) : s.Sound := by
  intro kind records hrecords
  obtain ⟨rows, hrows, rfl⟩ := Option.map_eq_some_iff.mp hrecords
  exact (h kind rows hrows).keepsConstraints (h kind rows hrows).describes

/-- What one step keeps. -/
theorem SoundTables.apply (h : s.SoundTables) (op : Operation) : (s.apply op).1.SoundTables :=
  fun kind => rowInvariant_soundRows.tableStep trivial (s.apply_tableStep op kind) (h kind)

/-- What a run keeps. -/
theorem soundTables_applyAll (ops : List Operation) : (empty.applyAll ops).SoundTables :=
  fun _ => rowInvariant_soundRows.applyAll fun _ _ => trivial

/-- A session sees sound rows, whatever was done in it. -/
theorem SoundTables.of_performAll (h : s.SoundTables) {actions : List Action} {os : List Outcome}
    {x : Session} (hx : (Session.start s).performAll actions = .ok (os, x)) :
    x.store.SoundTables := by
  intro kind
  obtain ⟨flushed, hgains, hqueue⟩ := Session.performAll_advances hx kind
  have hflushed : flushed ⊆ (Operation.act actions).drafts kind := by
    have hall : (Session.start s).queued kind ++ draftsOf actions kind =
        (Operation.act actions).drafts kind := rfl
    rw [← hall, ← hqueue]
    exact List.subset_append_left _ _
  exact rowInvariant_soundRows.gains trivial hflushed hgains (h kind)

/-! ### What operations do if they succeed -/

/-- A table and its records, or the lack of both. -/
abbrev Holds (kind : EntityKind) : Option (List Draft) → Table kind → Prop :=
  Option.Rel (List.Forall₂ Draft.Describes)

/-- Drafts that a table gains are appended to its records. -/
theorem holds_of_gains {t t' : Table kind} {drafts : List Draft} {r : Option (List Draft)}
    (hgains : Gains t drafts t') (h : Holds kind r t) :
    Holds kind (r.map fun records => drafts.foldl appendRecord records) t' := by
  induction hgains generalizing r with
  | nothing =>
    rw [show (fun records => List.foldl appendRecord records []) = id from rfl, Option.map_id]
    exact h
  | @row rows d drafts t row hid hrow _ ih =>
    obtain ⟨records, rfl, hrecords⟩ : ∃ records, r = some records ∧
        List.Forall₂ Draft.Describes records rows := by
      cases h with
      | some hrecords => exact ⟨_, rfl, hrecords⟩
    have hnew : { d with id := some (d.id.getD (nextNumber records)) }.Describes row :=
      ⟨by rw [hid, nextNumber_of_describes hrecords], hrow.name, hrow.createdAt, hrow.detail⟩
    exact ih (.some (List.rel_append hrecords (.cons hnew .nil)))

theorem write_eq_of_apply {c : Change} {d d' : Draft} (h : c.apply kind d = .ok d') :
    c.write d = d' := by
  rw [Change.apply] at h
  split_ifs at h
  exact Except.ok.inj h

theorem SoundTables.holds (h : s.SoundTables) (kind : EntityKind) :
    Holds kind (s.records kind) (s.table kind) := by
  rcases hrows : s.table kind with _ | rows
  · rw [records, hrows]
    exact .none
  · rw [records_of_table hrows]
    exact .some (h kind rows hrows).describes

/-- A row that was changed in its place is what was written as its record. -/
theorem SoundTables.holds_of_change (h : s.SoundTables) {id : Int} {c : Change} {found : Bool}
    {s' : Store} (hchange : s.change kind id c = .ok (s', found)) :
    ∃ t, s' = s.withTable kind t ∧ Holds kind ((s.records kind).map (changeRecord id c)) t := by
  obtain ⟨rows, hrows, hcases⟩ := cases_of_change hchange
  have hsound := h kind rows hrows
  have hdraft {row : Row kind} (hrow : row ∈ rows) : row.draft.Describes row :=
    Row.draft_describes (hsound.isSupported row hrow)
  have hrecords : (s.records kind).map (changeRecord id c) =
      some (rows.map fun row => if row.id = id then c.write row.draft else row.draft) := by
    rw [records_of_table hrows, Option.map_some, changeRecord, List.map_map]
    simp [Function.comp_def, Row.draft]
  rw [hrecords]
  rcases hcases with ⟨rfl, hnone⟩ | ⟨old, new, d, hold, hd, hid, hnew, rfl⟩
  · refine ⟨some rows, by rw [← hrows, withTable_table],
      .some (List.forall₂_map_left_iff.mpr (List.forall₂_same.mpr fun row hrow => ?_))⟩
    rw [if_neg (findRow_eq_none_iff.mp hnone row hrow)]
    exact hdraft hrow
  · obtain ⟨hmem, rfl⟩ := mem_of_findRow hold
    refine ⟨_, rfl, .some (List.forall₂_map_left_iff.mpr (List.forall₂_map_right_iff.mpr
      (List.forall₂_same.mpr fun row hrow => ?_)))⟩
    by_cases hsame : row.id = old.id
    · obtain rfl := hsound.distinctIds.eq_of_id_eq hrow hmem hsame
      obtain rfl := write_eq_of_apply hd
      rw [if_pos rfl, if_pos (beq_self_eq_true _)]
      exact ⟨hid ▸ rfl, hnew.name, hnew.createdAt, hnew.detail⟩
    · rw [if_neg hsame, if_neg (by simpa using hsame)]
      exact hdraft hrow

theorem SoundTables.holds_of_delete (h : s.SoundTables) {id : Int} {found : Bool} {s' : Store}
    (hdelete : s.delete kind id = .ok (s', found)) :
    ∃ t, s' = s.withTable kind t ∧ Holds kind ((s.records kind).map (deleteRecord id)) t := by
  obtain ⟨rows, hrows, rfl⟩ := eq_withTable_of_delete hdelete
  have hrecords : (s.records kind).map (deleteRecord id) =
      some ((rows.filter (·.id != id)).map Row.draft) := by
    rw [records_of_table hrows, Option.map_some, deleteRecord, List.filter_map]
    refine congrArg (fun kept : List (Row kind) => some (kept.map Row.draft))
      (List.filter_congr fun row _ => ?_)
    show decide (some row.id ≠ some id) = (row.id != id)
    rw [Bool.eq_iff_iff]
    simp
  rw [hrecords]
  exact ⟨_, rfl, .some (rowInvariant_soundRows.delete id (h kind rows hrows)).describes⟩

/-- A store in which one table was replaced holds what was written for that table, and in the other
tables what it held. -/
theorem SoundTables.holds_of_withTable (h : s.SoundTables) {other : EntityKind} {t : Table other}
    (write : Option (List Draft) → Option (List Draft))
    (hwrite : Holds other (write (s.records other)) t) (kind : EntityKind) :
    Holds kind (if other = kind then write (s.records kind) else s.records kind)
      ((s.withTable other t).table kind) := by
  by_cases hkind : other = kind
  · subst hkind
    rw [if_pos rfl, table_withTable_self]
    exact hwrite
  · rw [if_neg hkind, table_withTable_of_ne (Ne.symm hkind)]
    exact h.holds kind

/-- An operation that succeeds makes of every table what it would make of it unchecked. -/
theorem SoundTables.holds_of_apply (h : s.SoundTables) {op : Operation} {r : Operation.Result}
    (hop : (s.apply op).2 = .ok r) (kind : EntityKind) :
    Holds kind (op.unchecked kind (s.records kind)) ((s.apply op).1.table kind) := by
  cases op with
  | create =>
    show Holds kind (some ((s.records kind).getD [])) (s.createMissing.table kind)
    rw [table_createMissing]
    rcases hrows : s.table kind with _ | rows
    · rw [records, hrows]
      exact .some .nil
    · rw [records_of_table hrows]
      exact .some (h kind rows hrows).describes
  | drop other =>
    obtain ⟨s', hs', hdrop⟩ := bind_eq_ok_iff.mp (settle_of_ok hop)
    have hstore : s' = (s.apply (.drop other)).1 := (Prod.mk.inj (Except.ok.inj hdrop)).1
    obtain ⟨-, rfl⟩ := drop_eq_ok_iff.mp hs'
    rw [← hstore]
    exact h.holds_of_withTable (fun _ => none) .none kind
  | add other d => exact holds_of_gains (gains_of_apply_add hop kind) (h.holds kind)
  | act actions => exact holds_of_gains (gains_of_apply_act hop kind) (h.holds kind)
  | change other id c =>
    obtain ⟨found, hchange⟩ : ∃ found, s.change other id c =
        .ok ((s.apply (.change other id c)).1, found) := exists_of_settle_map hop
    obtain ⟨t, hstore, ht⟩ := h.holds_of_change hchange
    rw [hstore]
    exact h.holds_of_withTable (Option.map (changeRecord id c)) ht kind
  | delete other id =>
    obtain ⟨found, hdelete⟩ : ∃ found, s.delete other id =
        .ok ((s.apply (.delete other id)).1, found) := exists_of_settle_map hop
    obtain ⟨t, hstore, ht⟩ := h.holds_of_delete hdelete
    rw [hstore]
    exact h.holds_of_withTable (Option.map (deleteRecord id)) ht kind

/-- An operation fails if it would make of a table what the constraints forbid. -/
theorem SoundTables.exists_error (h : s.SoundTables) {op : Operation} {records : List Draft}
    (hrecords : op.unchecked kind (s.records kind) = some records)
    (hbroken : ¬KeepsConstraints kind records) : ∃ f, (s.apply op).2 = .error f := by
  rcases hop : (s.apply op).2 with f | r
  · exact ⟨f, rfl⟩
  have hholds := h.holds_of_apply hop kind
  rw [hrecords] at hholds
  obtain ⟨rows, hrows, hdescribes⟩ : ∃ rows, (s.apply op).1.table kind = some rows ∧
      List.Forall₂ Draft.Describes records rows := by
    generalize (s.apply op).1.table kind = t at hholds
    cases hholds with
    | some hdescribes => exact ⟨_, rfl, hdescribes⟩
  exact absurd ((h.apply op kind rows hrows).keepsConstraints hdescribes) hbroken

end Store

/-- **The constraints always hold.**  After every run from the store without tables, and inside
every unit of work on such a store, all tables keep their constraints.  An operation that succeeds
makes of every table what it would make of it unchecked; one that would break a constraint fails;
and one that fails changes nothing.  So there is one latest row, at most one user is joined to a
repository, and the latest entity and the owner of a repository do not depend on the order in which
the tables hold their rows. -/
theorem constraints_always_hold (τ : Type) (ops : List Operation) :
    let s := Store.empty.applyAll ops
    s.Sound ∧
      (∀ actions os x, (Session.start s).performAll actions = .ok (os, x) → x.store.Sound) ∧
      (∀ op, (∃ kind, ∃ records ∈ op.unchecked kind (s.records kind),
        ¬KeepsConstraints kind records) → ∃ f, (s.apply op).2 = .error f) ∧
      (∀ op f, (s.apply op).2 = .error f → (s.apply op).1 = s) ∧
      (∀ op r, (s.apply op).2 = .ok r → ∀ kind,
        Store.Holds kind (op.unchecked kind (s.records kind)) ((s.apply op).1.table kind)) ∧
      (∀ kind rows, s.table kind = some rows → rows ≠ [] →
        ∃! row, IsLatest rows (some row) ∧
          (s.access.latest kind : Behaviour τ (Option LatestEntity)) =
            .answers (.ok (some row.entity))) ∧
      (∀ users repositories id, s.users = some users → s.repositories = some repositories →
        (ownersOf users repositories id).length ≤ 1 ∧
          (fitsColumn id = true → (s.access.owner id : Behaviour τ (Option String)) =
            .answers (.ok ((ownersOf users repositories id).head?.map (·.name))))) ∧
      ∀ s', s.Reorders s' →
        (∀ kind, (s'.access.latest kind : Behaviour τ (Option LatestEntity)) =
          s.access.latest kind) ∧
        ∀ id, (s'.access.owner id : Behaviour τ (Option String)) = s.access.owner id := by
  intro s
  have hs : s.SoundTables := Store.soundTables_applyAll ops
  have hids : ∀ kind, ∀ rows ∈ s.table kind, DistinctIds rows :=
    fun kind rows hrows => (hs kind rows hrows).distinctIds
  refine ⟨hs.sound, fun _ _ _ hx => (hs.of_performAll hx).sound, ?_,
    fun _ _ => Store.apply_fst_of_error, fun _ _ => hs.holds_of_apply, ?_, ?_, ?_⟩
  · rintro op ⟨kind, records, hrecords, hbroken⟩
    exact hs.exists_error hrecords hbroken
  · intro kind rows hrows hne
    obtain ⟨row, hrow, hunique⟩ := existsUnique_isLatest (hids kind rows hrows) hne
    refine ⟨row, ⟨hrow, ?_⟩, fun other hother => hunique other hother.1⟩
    rw [Store.latest_of_table hrows, (latestRow_eq_iff (hids kind rows hrows)).mpr hrow]
    rfl
  · intro users repositories id husers hrepositories
    rw [ownersOf_eq_toList (hids .user users husers) (hids .repository _ hrepositories)]
    refine ⟨Option.length_toList_le, fun hid => ?_⟩
    rw [Store.owner_of_tables hid husers hrepositories, Option.head?_toList]
  · exact fun s' hs' => ⟨fun kind => (Store.latest_eq_of_reorders hids hs' kind).symm,
      fun id => (Store.owner_eq_of_reorders hids hs' id).symm⟩

/-- A unit of work that makes two users, of whom the second has a name that is taken. -/
def takenName : Operation := .act [.add .user carol, .add .user { carol with name := some "late" }]

/-- The mixed store, with the rows of its tables in reverse. -/
def reversedStore : Store where
  users := mixedStore.users.map List.reverse
  groups := none
  repositories := mixedStore.repositories.map List.reverse

/-- The taken name undoes the whole unit, and it does not matter that the rows are in reverse. -/
theorem taken_name_undoes_unit :
    Store.empty.applyAll mixedClocks = mixedStore ∧
      (∃ records ∈ takenName.unchecked .user (mixedStore.records .user),
        ¬KeepsConstraints .user records) ∧
      (∃ f, (mixedStore.apply takenName).2 = .error f ∧
        (mixedStore.apply takenName).1 = mixedStore) ∧
      mixedStore.Reorders reversedStore ∧
      (reversedStore.access.latest .user : Behaviour Int (Option LatestEntity)) =
        .answers (.ok (some ⟨.user, 2, .text "late"⟩)) ∧
      (reversedStore.access.owner 1 : Behaviour Int (Option String)) =
        .answers (.ok (some "late")) := by
  have hstore : Store.empty.applyAll mixedClocks = mixedStore := by decide +kernel
  obtain ⟨-, -, hbreaks, hfails, -, -, -, hreorders⟩ := constraints_always_hold Int mixedClocks
  rw [hstore] at hbreaks hfails hreorders
  have hbroken : ∃ records ∈ takenName.unchecked .user (mixedStore.records .user),
      ¬KeepsConstraints .user records :=
    ⟨_, rfl, fun h => absurd (h.distinctNames (Or.inl rfl)) (by decide)⟩
  have hreversed : mixedStore.Reorders reversedStore := by
    intro kind
    cases kind with
    | user => exact .some (List.reverse_perm _).symm
    | group => exact .none
    | repository => exact .some (List.reverse_perm _).symm
  obtain ⟨hlatest, howner⟩ := hreorders reversedStore hreversed
  obtain ⟨f, hf⟩ := hbreaks takenName ⟨.user, hbroken⟩
  exact ⟨hstore, hbroken, ⟨f, hf, hfails takenName f hf⟩, hreversed,
    (hlatest .user).trans rfl, (howner 1).trans rfl⟩

end ForgeDashboard
