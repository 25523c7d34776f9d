import ForgeDashboard.Proofs.WorkUnit
import ForgeDashboard.Store.Operation

/-!
# Steps of a store

An operation leaves a table alone or does one of five things to it: the table gains the drafts of
the operation, is made, is dropped, has one of its rows changed in place, or loses the row of a
number.  An operation that fails leaves all tables alone.  What holds of an empty table and is kept
by adding, changing and deleting a row therefore holds of every table after every run.

## Main definitions

* `Operation.drafts` : the drafts that an operation adds to a table.
* `TableStep` : what an operation may do to a table.
* `RowInvariant` : a property of rows that no step breaks.

## Main results

* `apply_fst_of_error` : an operation that fails leaves the store alone.
* `apply_tableStep` : an operation is such a step for every table.
* `RowInvariant.applyAll` : a property that no step breaks holds after every run.
* `distinctIds_applyAll` : such a property is that the numbers of a table are distinct.
-/

namespace ForgeDashboard

variable {kind : EntityKind}

/-- The drafts that an operation adds to the table of a kind. -/
def Operation.drafts (kind : EntityKind) : Operation → List Draft
  | .add other d => draftsOf [.add other d] kind
  | .act actions => draftsOf actions kind
  | _ => []

/-- What an operation may do to a table. -/
inductive TableStep (op : Operation) : Table kind → Table kind → Prop
  | same (t : Table kind) : TableStep op t t
  | gain {t t' : Table kind} (h : Gains t (op.drafts kind) t') : TableStep op t t'
  | create : TableStep op none (some [])
  | drop (rows : List (Row kind)) : TableStep op (some rows) none
  | change {id : Int} {c : Change} {rows : List (Row kind)} {old new : Row kind} {d : Draft}
      (hop : op = .change kind id c) (hold : old ∈ rows) (hd : c.apply kind old.draft = .ok d)
      (hid : new.id = old.id) (hnew : d.Becomes (rows.filter (·.id != old.id)) new) :
      TableStep op (some rows) (some (rows.map fun row => if row.id == old.id then new else row))
  | delete {rows : List (Row kind)} (id : Int) :
      TableStep op (some rows) (some (rows.filter (·.id != id)))

/-! ### Operations are steps -/

namespace Store

variable {s s' : Store}

/-- An attempt to change a store leaves it alone or does what it set out to do. -/
theorem settle_fst {α : Type} (s : Store) (attempt : Except Fault (Store × α)) :
    (s.settle attempt).1 = s ∨ ∃ a, attempt = .ok ((s.settle attempt).1, a) := by
  rcases attempt with f | ⟨s', a⟩
  · exact Or.inl rfl
  · exact Or.inr ⟨a, rfl⟩

/-- An attempt whose outcome is put into another form changes the store as before. -/
theorem settle_map_fst {α β : Type} (s : Store) (attempt : Except Fault (Store × α)) (g : α → β) :
    (s.settle do
      let (store, a) ← attempt
      return (store, g a)).1 = (s.settle attempt).1 := by
  rcases attempt with f | ⟨s', a⟩
  · rfl
  · rfl

theorem find_eq_ok_iff {id : Int} {found : Option (Row kind)} :
    s.find kind id = .ok found ↔
      ∃ rows, s.table kind = some rows ∧ fitsColumn id = true ∧ findRow rows id = found := by
  simp [find, bind_eq_ok_iff, check_eq_ok_iff, rows_eq_ok_iff, pure, Except.pure]

theorem drop_eq_ok_iff :
    s.drop kind = .ok s' ↔ (s.table kind).isSome ∧ s' = s.withTable kind none := by
  simp [drop, bind_eq_ok_iff, rows_eq_ok_iff, pure, Except.pure, Option.isSome_iff_exists,
    eq_comm (a := s')]

/-- Dropping a table takes it away if it is there. -/
theorem apply_drop_cases (s : Store) (kind : EntityKind) :
    (s.apply (.drop kind)).1 = s ∨
      (s.table kind).isSome ∧ (s.apply (.drop kind)).1 = s.withTable kind none := by
  refine (s.settle_fst _).imp_right ?_
  rintro ⟨_, h⟩
  obtain ⟨s', hdrop, h⟩ := bind_eq_ok_iff.mp h
  obtain ⟨rfl, -⟩ := Prod.mk.inj (Except.ok.inj h)
  exact drop_eq_ok_iff.mp hdrop

/-- Deleting takes away the row of a number, or nothing if there is none. -/
theorem eq_withTable_of_delete {id : Int} {found : Bool}
    (h : s.delete kind id = .ok (s', found)) :
    ∃ rows, s.table kind = some rows ∧
      s' = s.withTable kind (some (rows.filter (·.id != id))) := by
  obtain ⟨row?, hfind, h⟩ := bind_eq_ok_iff.mp h
  obtain ⟨rows, hrows, -, hrow⟩ := find_eq_ok_iff.mp hfind
  rcases row? with _ | row
  · obtain ⟨rfl, -⟩ := Prod.mk.inj (Except.ok.inj h)
    have hall : rows.filter (·.id != id) = rows :=
      List.filter_eq_self.mpr fun row hmem => by simpa using findRow_eq_none_iff.mp hrow row hmem
    refine ⟨rows, hrows, ?_⟩
    rw [hall, ← hrows, withTable_table]
  · obtain ⟨rows', hrows', h⟩ := bind_eq_ok_iff.mp h
    obtain rfl : rows = rows' := Option.some.inj (hrows.symm.trans (rows_eq_ok_iff.mp hrows'))
    obtain ⟨hs', -⟩ := Prod.mk.inj (Except.ok.inj h)
    obtain ⟨-, rfl⟩ := mem_of_findRow hrow
    exact ⟨rows, hrows, hs'.symm⟩

/-- Changing puts another row in the place of the row of a number; if there is none the store stays
as it is. -/
theorem cases_of_change {id : Int} {c : Change} {found : Bool}
    (h : s.change kind id c = .ok (s', found)) :
    ∃ rows, s.table kind = some rows ∧
      (s' = s ∧ findRow rows id = none ∨
        ∃ old new d, findRow rows id = some old ∧ c.apply kind old.draft = .ok d ∧
          new.id = old.id ∧ d.Becomes (rows.filter (·.id != old.id)) new ∧
          s' = s.withTable kind
            (some (rows.map fun row => if row.id == old.id then new else row))) := by
  obtain ⟨row?, hfind, h⟩ := bind_eq_ok_iff.mp h
  obtain ⟨rows, hrows, -, hrow⟩ := find_eq_ok_iff.mp hfind
  refine ⟨rows, hrows, ?_⟩
  rcases row? with _ | old
  · obtain ⟨hsame, -⟩ := Prod.mk.inj (Except.ok.inj h)
    exact Or.inl ⟨hsame.symm, hrow⟩
  · obtain ⟨rows', hrows', h⟩ := bind_eq_ok_iff.mp h
    obtain rfl : rows = rows' := Option.some.inj (hrows.symm.trans (rows_eq_ok_iff.mp hrows'))
    obtain ⟨_, hrow', h⟩ := bind_eq_ok_iff.mp h
    obtain ⟨hs', -⟩ := Prod.mk.inj (Except.ok.inj h)
    obtain ⟨d, hd, hrow'⟩ := bind_eq_ok_iff.mp hrow'
    obtain ⟨createdAt, hinstant, hrow'⟩ := bind_eq_ok_iff.mp hrow'
    obtain ⟨new, haccept, hrow'⟩ := bind_eq_ok_iff.mp hrow'
    obtain rfl := Except.ok.inj hrow'
    obtain ⟨hid, hnew⟩ := (accept_eq_ok_iff hinstant).mp haccept
    exact Or.inr ⟨old, new, d, hrow, hd, hid, hnew, hs'.symm⟩

/-- Deleting takes away the row of a number if it succeeds. -/
theorem apply_delete_cases (s : Store) (kind : EntityKind) (id : Int) :
    (s.apply (.delete kind id)).1 = s ∨ ∃ rows, s.table kind = some rows ∧
      (s.apply (.delete kind id)).1 = s.withTable kind (some (rows.filter (·.id != id))) := by
  have happly : (s.apply (.delete kind id)).1 = (s.settle (s.delete kind id)).1 :=
    s.settle_map_fst _ Operation.Result.found
  rw [happly]
  rcases s.settle_fst (s.delete kind id) with hsame | ⟨found, hdelete⟩
  · exact Or.inl hsame
  · exact Or.inr (eq_withTable_of_delete hdelete)

/-- Changing puts another row in the place of the row of a number if there is one. -/
theorem apply_change_cases (s : Store) (kind : EntityKind) (id : Int) (c : Change) :
    (s.apply (.change kind id c)).1 = s ∨ ∃ rows old new d, s.table kind = some rows ∧
      old ∈ rows ∧ c.apply kind old.draft = .ok d ∧ new.id = old.id ∧
      d.Becomes (rows.filter (·.id != old.id)) new ∧
      (s.apply (.change kind id c)).1 = s.withTable kind
        (some (rows.map fun row => if row.id == old.id then new else row)) := by
  have happly : (s.apply (.change kind id c)).1 = (s.settle (s.change kind id c)).1 :=
    s.settle_map_fst _ Operation.Result.found
  rw [happly]
  rcases s.settle_fst (s.change kind id c) with hsame | ⟨found, hchange⟩
  · exact Or.inl hsame
  obtain ⟨rows, hrows, ⟨hsame, -⟩ | ⟨old, new, d, hold, hd, hid, hnew, hs'⟩⟩ :=
    cases_of_change hchange
  · exact Or.inl hsame
  · exact Or.inr ⟨rows, old, new, d, hrows, (mem_of_findRow hold).1, hd, hid, hnew, hs'⟩

/-- Adding a row makes of a store what a unit of work makes of it that only adds this row. -/
theorem apply_add_fst (s : Store) (other : EntityKind) (d : Draft) :
    (s.apply (.add other d)).1 = (s.apply (.act [.add other d])).1 := by
  let body : Session → Except Fault (Operation.Result × Session) := fun x => do
    return (.added (s.idFor other d), ← (x.add other d).flush)
  show (WorkUnit.new.run s body).store =
    (WorkUnit.new.run s (·.performAll [.add other d])).store
  have hqueued : (Session.start s).performAll [.add other d] =
      .ok ([.queued], (Session.start s).add other d) := rfl
  rcases hflush : ((Session.start s).add other d).flush with f | ⟨s', queue⟩
  · have hbody : body (.start s) = .error f := by
      simp only [body, hflush]
      rfl
    have hcommit : ((Session.start s).add other d).commit = .error f := by
      rw [Session.commit, hflush]
      rfl
    rw [WorkUnit.run_store_of_error (WorkUnit.run_result_eq_error_iff.mpr (.inl hbody)),
      WorkUnit.run_store_of_error
        (WorkUnit.run_result_eq_error_iff.mpr (.inr ⟨_, _, hqueued, hcommit⟩))]
  · obtain rfl : queue = [] := (Session.flush_eq_ok_iff.mp hflush).1
    have hbody : body (.start s) = .ok (.added (s.idFor other d), .start s') := by
      simp only [body, hflush]
      rfl
    have hcommit : ((Session.start s).add other d).commit = .ok s' := by
      rw [Session.commit, hflush]
      rfl
    rw [WorkUnit.run_of_commit hbody (Session.commit_start s'),
      WorkUnit.run_of_commit hqueued hcommit]

/-- Running actions in a unit of work lets every table gain the drafts that they queue, or changes
nothing. -/
theorem apply_act_cases (s : Store) (actions : List Action) :
    (s.apply (.act actions)).1 = s ∨ ∀ kind,
      Gains (s.table kind) (draftsOf actions kind) ((s.apply (.act actions)).1.table kind) := by
  rcases hresult : (WorkUnit.new.run s (·.performAll actions)).result with f | os
  · exact Or.inl (WorkUnit.run_store_of_error hresult)
  · exact Or.inr (WorkUnit.gains_of_ok hresult)

/-! ### Operations that fail and that succeed -/

/-- An attempt that fails leaves the store alone. -/
theorem settle_fst_of_error {α : Type} {attempt : Except Fault (Store × α)} {f : Fault}
    (h : (s.settle attempt).2 = .error f) : (s.settle attempt).1 = s := by
  rcases attempt with g | ⟨s', a⟩
  · rfl
  · cases h

/-- An attempt that succeeds leaves the store that it made. -/
theorem settle_of_ok {α : Type} {attempt : Except Fault (Store × α)} {a : α}
    (h : (s.settle attempt).2 = .ok a) : attempt = .ok ((s.settle attempt).1, a) := by
  rcases attempt with f | ⟨s', b⟩
  · cases h
  · cases h
    rfl

/-- An attempt whose outcome is put into another form leaves the store that it made. -/
theorem exists_of_settle_map {α β : Type} {attempt : Except Fault (Store × α)} {g : α → β} {b : β}
    (h : (s.settle do
      let (store, a) ← attempt
      return (store, g a)).2 = .ok b) :
    ∃ a, attempt = .ok ((s.settle do
      let (store, a) ← attempt
      return (store, g a)).1, a) := by
  obtain ⟨⟨s', a⟩, hattempt, hb⟩ := bind_eq_ok_iff.mp (settle_of_ok h)
  obtain ⟨hstore, -⟩ := Prod.mk.inj (Except.ok.inj hb)
  exact ⟨a, hattempt.trans (hstore ▸ rfl)⟩

/-- An operation that fails leaves the store alone. -/
theorem apply_fst_of_error {op : Operation} {f : Fault} (h : (s.apply op).2 = .error f) :
    (s.apply op).1 = s := by
  cases op with
  | create => cases h
  | drop kind => exact settle_fst_of_error h
  | add kind d => exact WorkUnit.run_store_of_error h
  | change kind id c => exact settle_fst_of_error h
  | delete kind id => exact settle_fst_of_error h
  | act actions =>
    have hresult : Except.map _ (WorkUnit.new.run s (·.performAll actions)).result = .error f := h
    rcases hrun : (WorkUnit.new.run s (·.performAll actions)).result with g | os
    · exact WorkUnit.run_store_of_error hrun
    · rw [hrun] at hresult
      cases hresult

/-- Adding a row that succeeds lets the tables gain its draft. -/
theorem gains_of_apply_add {other : EntityKind} {d : Draft} {r : Operation.Result}
    (h : (s.apply (.add other d)).2 = .ok r) (kind : EntityKind) :
    Gains (s.table kind) (draftsOf [.add other d] kind)
      ((s.apply (.add other d)).1.table kind) := by
  obtain ⟨x, hbody, hcommit⟩ := WorkUnit.exists_commit_of_ok h
  obtain ⟨x', hflush, hx⟩ := bind_eq_ok_iff.mp hbody
  obtain ⟨-, rfl⟩ := Prod.mk.inj (Except.ok.inj hx)
  have hgains := (Session.flush_eq_ok_iff.mp hflush).2 kind
  have hcommitted := Session.commit_eq_ok_iff.mp hcommit kind
  rw [Session.queued_of_flush hflush, gains_nil_iff] at hcommitted
  rw [Session.queued_add] at hgains
  have hdrafts : draftsOf [.add other d] kind = Action.drafts kind (.add other d) :=
    List.flatMap_singleton ..
  rw [hdrafts]
  show Gains _ _ ((WorkUnit.new.run s _).store.table kind)
  rw [hcommitted]
  exact hgains

theorem gains_of_apply_act {actions : List Action} {r : Operation.Result}
    (h : (s.apply (.act actions)).2 = .ok r) (kind : EntityKind) :
    Gains (s.table kind) (draftsOf actions kind) ((s.apply (.act actions)).1.table kind) := by
  have hresult : Except.map _ (WorkUnit.new.run s (·.performAll actions)).result = .ok r := h
  rcases hrun : (WorkUnit.new.run s (·.performAll actions)).result with f | os
  · rw [hrun] at hresult
    cases hresult
  · exact WorkUnit.gains_of_ok hrun kind

/-! ### Steps of tables -/

/-- What an operation does to a table. -/
theorem apply_tableStep (s : Store) (op : Operation) (kind : EntityKind) :
    TableStep op (s.table kind) ((s.apply op).1.table kind) := by
  have hacts {op : Operation} (actions : List Action)
      (hdrafts : op.drafts kind = draftsOf actions kind) :
      TableStep op (s.table kind) ((s.apply (.act actions)).1.table kind) := by
    rcases s.apply_act_cases actions with hsame | hgains
    · rw [hsame]
      exact .same _
    · exact .gain (hdrafts ▸ hgains kind)
  -- A step of one table leaves the others alone.
  have honly {op : Operation} {other : EntityKind} {t : Table other}
      (h : TableStep op (s.table other) t) :
      TableStep op (s.table kind) ((s.withTable other t).table kind) := by
    by_cases hkind : kind = other
    · subst hkind
      rwa [table_withTable_self]
    · rw [table_withTable_of_ne hkind]
      exact .same _
  cases op with
  | create =>
    show TableStep _ _ (s.createMissing.table kind)
    rw [table_createMissing]
    rcases s.table kind with _ | rows
    · exact .create
    · exact .same _
  | drop other =>
    rcases s.apply_drop_cases other with hsame | ⟨hsome, hdrop⟩
    · rw [hsame]
      exact .same _
    · obtain ⟨rows, hrows⟩ := Option.isSome_iff_exists.mp hsome
      rw [hdrop]
      exact honly (hrows ▸ .drop rows)
  | add other d =>
    rw [apply_add_fst]
    exact hacts [.add other d] rfl
  | change other id c =>
    rcases s.apply_change_cases other id c with
      hsame | ⟨rows, old, new, d, hrows, hold, hd, hid, hnew, hchange⟩
    · rw [hsame]
      exact .same _
    · rw [hchange]
      exact honly (hrows ▸ .change rfl hold hd hid hnew)
  | delete other id =>
    rcases s.apply_delete_cases other id with hsame | ⟨rows, hrows, hdelete⟩
    · rw [hsame]
      exact .same _
    · rw [hdelete]
      exact honly (hrows ▸ .delete id)
  | act actions => exact hacts actions rfl

theorem applyAll_cons (s : Store) (op : Operation) (ops : List Operation) :
    s.applyAll (op :: ops) = (s.apply op).1.applyAll ops := rfl

theorem applyAll_append (s : Store) (ops later : List Operation) :
    s.applyAll (ops ++ later) = (s.applyAll ops).applyAll later :=
  List.foldl_append

theorem table_empty (kind : EntityKind) : empty.table kind = none := by
  cases kind <;> rfl

end Store

/-! ### Properties that no step breaks -/

/-- A property of rows that no step of a table breaks, if the operations are of a certain sort: it
holds of no rows, and is kept when a row is added, changed in its place, or deleted. -/
structure RowInvariant (P : Operation → Prop) (J : List (Row kind) → Prop) : Prop where
  nil : J []
  add : ∀ {op : Operation} {rows : List (Row kind)} {row : Row kind} {d : Draft}, P op →
    d ∈ op.drafts kind → row.id = d.id.getD (nextId rows) → d.Becomes rows row →
    J rows → J (rows ++ [row])
  change : ∀ {id : Int} {c : Change} {rows : List (Row kind)} {old new : Row kind} {d : Draft},
    P (.change kind id c) → old ∈ rows → c.apply kind old.draft = .ok d → new.id = old.id →
    d.Becomes (rows.filter (·.id != old.id)) new →
    J rows → J (rows.map fun row => if row.id == old.id then new else row)
  delete : ∀ {rows : List (Row kind)} (id : Int), J rows → J (rows.filter (·.id != id))

namespace RowInvariant

variable {P : Operation → Prop} {J : List (Row kind) → Prop} (h : RowInvariant P J)

include h

theorem gains {op : Operation} {t t' : Table kind} {drafts : List Draft} (hop : P op)
    (hdrafts : drafts ⊆ op.drafts kind) (hgains : Gains t drafts t') (ht : ∀ rows ∈ t, J rows) :
    ∀ rows ∈ t', J rows := by
  induction hgains with
  | nothing => exact ht
  | row hid hrow _ ih =>
    obtain ⟨hd, hdrafts⟩ := List.cons_subset.mp hdrafts
    refine ih hdrafts fun rows hrows => ?_
    obtain rfl := Option.some.inj hrows
    exact h.add hop hd hid hrow (ht _ rfl)

/-- What one step keeps. -/
theorem tableStep {op : Operation} {t t' : Table kind} (hop : P op) (hstep : TableStep op t t')
    (ht : ∀ rows ∈ t, J rows) : ∀ rows ∈ t', J rows := by
  cases hstep with
  | same => exact ht
  | gain hgains => exact h.gains hop (List.Subset.refl _) hgains ht
  | create =>
    rintro _ ⟨⟩
    exact h.nil
  | drop => rintro _ ⟨⟩
  | change hchange hold hd hid hnew =>
    rintro _ ⟨⟩
    exact h.change (hchange ▸ hop) hold hd hid hnew (ht _ rfl)
  | delete id =>
    rintro _ ⟨⟩
    exact h.delete id (ht _ rfl)

/-- What a run keeps. -/
theorem applyAll_of {s : Store} {ops : List Operation} (hops : ∀ op ∈ ops, P op)
    (hs : ∀ rows ∈ s.table kind, J rows) : ∀ rows ∈ (s.applyAll ops).table kind, J rows := by
  induction ops generalizing s with
  | nil => exact hs
  | cons op ops ih =>
    obtain ⟨hop, hops⟩ := List.forall_mem_cons.mp hops
    exact ih hops (h.tableStep hop (s.apply_tableStep op kind) hs)

/-- A property that no step breaks holds after every run from the store without tables. -/
theorem applyAll {ops : List Operation} (hops : ∀ op ∈ ops, P op) :
    ∀ rows ∈ (Store.empty.applyAll ops).table kind, J rows := by
  refine h.applyAll_of hops ?_
  rw [Store.table_empty]
  rintro _ ⟨⟩

end RowInvariant

/-! ### Numbers -/

/-- A row that is changed in its place keeps its number. -/
theorem ids_of_change {rows : List (Row kind)} {old new : Row kind} (hid : new.id = old.id) :
    (rows.map fun row => if row.id == old.id then new else row).map (·.id) =
      rows.map (·.id) := by
  rw [List.map_map]
  refine List.map_congr_left fun row _ => ?_
  rw [Function.comp_apply]
  split_ifs with h
  · rw [hid, beq_iff_eq.mp h]
  · rfl

theorem rowInvariant_distinctIds :
    RowInvariant (fun _ => True) fun rows : List (Row kind) => DistinctIds rows where
  nil := List.nodup_nil
  add := by
    intro op rows row d _ _ _ hrow hrows
    have hfresh : row.id ∉ rows.map (·.id) := by
      simpa using hrow.freshId
    rw [DistinctIds, List.map_append, List.map_singleton, ← List.concat_eq_append]
    exact hrows.concat hfresh
  change := by
    intro id c rows old new d _ _ _ hid _ hrows
    rw [DistinctIds, ids_of_change hid]
    exact hrows
  delete := fun id hrows => hrows.sublist (List.filter_sublist.map _)

/-- The numbers of a table are always distinct. -/
theorem distinctIds_applyAll (ops : List Operation) (kind : EntityKind) :
    ∀ rows ∈ (Store.empty.applyAll ops).table kind, DistinctIds rows :=
  rowInvariant_distinctIds.applyAll fun _ _ => trivial

end ForgeDashboard
