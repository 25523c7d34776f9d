import ForgeDashboard.Proofs.StoreSteps

/-!
# Clocks do not matter

A row keeps the instant of a time stamp that was written for it: what the clock showed, less what it
was ahead.  A time stamp that is read off another clock, one that is ahead by some time more and
says so, denotes the same instant.  So what a store becomes does not depend on the clocks that the
time stamps of its operations were read off.

## Main definitions

* `Stamp.Denotes` : the instant that a time stamp denotes.
* `Operation.stamps` : the time stamps that an operation writes to a table.
* `Stamp.moved` : a time stamp, read off a clock that is ahead by some time more.
* `Operation.reclocked` : an operation, with its time stamps read off other clocks.

## Main results

* `exists_stamp_applyAll` : every row has the instant of a time stamp that was written.
* `applyAll_reclocked` : operations make the same store whatever clocks are used.
-/

namespace ForgeDashboard

/-! ### Written instants -/

section Written

variable {kind : EntityKind}

/-- An instant is what a clock showed, less what it was ahead. -/
def Stamp.Denotes (t : Stamp) (i : Instant) : Prop :=
  ∃ ahead, t.ahead = some ahead ∧ i.micros = t.clock - ahead

theorem Stamp.denotes_of_instant {t : Stamp} {i : Instant} (h : t.instant = .ok i) :
    t.Denotes i := by
  obtain ⟨clock, _ | ahead⟩ := t
  · cases h
  · rw [instant] at h
    dsimp only at h
    split_ifs at h
    cases h
    exact ⟨ahead, rfl, rfl⟩

/-- The time stamp of an instant denotes no other instant. -/
theorem Stamp.Denotes.eq_of_ofInstant {i i' : Instant} (h : (Stamp.ofInstant i).Denotes i') :
    i' = i := by
  obtain ⟨ahead, hahead, hmicros⟩ := h
  obtain rfl : 0 = ahead := Option.some.inj hahead
  obtain ⟨micros⟩ := i
  obtain ⟨micros'⟩ := i'
  simpa [ofInstant] using hmicros

/-- The instant of a draft is that of its time stamp. -/
theorem Draft.exists_stamp_of_instant {d : Draft} {i : Instant} (h : d.instant = .ok (some i)) :
    ∃ t, d.createdAt = some t ∧ t.instant = .ok i := by
  obtain ⟨id, name, email, ownerId, _ | t⟩ := d
  · cases h
  · have hinstant : some <$> t.instant = .ok (some i) := h
    rcases ht : t.instant with f | i'
    · rw [ht] at hinstant
      cases hinstant
    · rw [ht] at hinstant
      cases hinstant
      exact ⟨t, rfl, ht⟩

/-- A row has the instant of the time stamp of its draft. -/
theorem Draft.Becomes.exists_stamp {d : Draft} {others : List (Row kind)} {row : Row kind}
    (h : d.Becomes others row) : ∃ t, d.createdAt = some t ∧ t.Denotes row.createdAt := by
  obtain ⟨t, ht, hinstant⟩ := Draft.exists_stamp_of_instant h.createdAt
  exact ⟨t, ht, Stamp.denotes_of_instant hinstant⟩

/-- The time stamp that changes write. -/
def Change.stamp (c : Change) : Option Stamp := c.createdAt.join

/-- The time stamps that an operation writes to the table of a kind. -/
def Operation.stamps (kind : EntityKind) (op : Operation) : List Stamp :=
  (op.drafts kind).filterMap (·.createdAt) ++
    match op with
    | .change other _ c => if other = kind then c.stamp.toList else []
    | _ => []

theorem mem_stamps_of_mem_drafts {op : Operation} {d : Draft} {t : Stamp}
    (hd : d ∈ op.drafts kind) (ht : d.createdAt = some t) : t ∈ op.stamps kind :=
  List.mem_append_left _ (List.mem_filterMap.mpr ⟨d, hd, ht⟩)

theorem mem_stamps_of_change {id : Int} {c : Change} {t : Stamp}
    (ht : c.createdAt = some (some t)) :
    t ∈ (Operation.change kind id c).stamps kind := by
  refine List.mem_append_right _ ?_
  simp [Change.stamp, ht]

/-- Changes of a row leave the time stamp or write another one. -/
theorem createdAt_of_apply {c : Change} {d d' : Draft} (h : c.apply kind d = .ok d') :
    d'.createdAt = c.createdAt.getD d.createdAt := by
  rw [Change.apply] at h
  split_ifs at h
  cases h
  rfl

/-- Every row has the instant of a time stamp that operations write to its table. -/
theorem rowInvariant_stamps (ops : List Operation) :
    RowInvariant (· ∈ ops) fun rows : List (Row kind) =>
      ∀ row ∈ rows, ∃ op ∈ ops, ∃ t ∈ op.stamps kind, t.Denotes row.createdAt where
  nil := by simp
  add := by
    intro op rows row d hop hd _ hrow hrows
    obtain ⟨t, ht, hdenotes⟩ := hrow.exists_stamp
    refine List.forall_mem_append.mpr ⟨hrows, List.forall_mem_singleton.mpr ?_⟩
    exact ⟨op, hop, t, mem_stamps_of_mem_drafts hd ht, hdenotes⟩
  change := by
    intro id c rows old new d hop hold hd _ hnew hrows
    have hnewStamp : ∃ op ∈ ops, ∃ t ∈ op.stamps kind, t.Denotes new.createdAt := by
      obtain ⟨t, ht, hdenotes⟩ := hnew.exists_stamp
      rw [createdAt_of_apply hd] at ht
      rcases hc : c.createdAt with _ | stamp
      · -- The changes leave the instant, so the stamp of the old row is that of the new one.
        rw [hc] at ht
        cases ht
        rw [hdenotes.eq_of_ofInstant]
        exact hrows old hold
      · rw [hc, Option.getD_some] at ht
        exact ⟨_, hop, t, mem_stamps_of_change (hc.trans (congrArg some ht)), hdenotes⟩
    refine List.forall_mem_map.mpr fun row hrow => ?_
    split_ifs
    · exact hnewStamp
    · exact hrows row hrow
  delete := fun id hrows row hrow => hrows row (List.mem_of_mem_filter hrow)

/-- After every run, a row has the instant of a time stamp that was written to its table. -/
theorem exists_stamp_applyAll (ops : List Operation) (kind : EntityKind) :
    ∀ rows ∈ (Store.empty.applyAll ops).table kind, ∀ row ∈ rows,
      ∃ op ∈ ops, ∃ t ∈ op.stamps kind, t.Denotes row.createdAt :=
  (rowInvariant_stamps ops).applyAll fun _ hop => hop

end Written

/-! ### Other clocks -/

/-- A time stamp, read off a clock that is ahead by some time more. -/
def Stamp.moved (t : Stamp) (more : Int) : Stamp := ⟨t.clock + more, t.ahead.map (· + more)⟩

theorem Stamp.moved_instant (t : Stamp) (more : Int) : (t.moved more).instant = t.instant := by
  obtain ⟨clock, _ | ahead⟩ := t
  · rfl
  · have hmicros : clock + more - (ahead + more) = clock - ahead := by omega
    simp only [moved, instant, Option.map_some, hmicros]

variable (shift : Stamp → Int)

/-- A draft, with its time stamp read off another clock. -/
def Draft.reclocked (d : Draft) : Draft :=
  { d with createdAt := d.createdAt.map fun t => t.moved (shift t) }

/-- Changes, with the time stamp read off another clock. -/
def Change.reclocked (c : Change) : Change :=
  { c with createdAt := c.createdAt.map (Option.map fun t => t.moved (shift t)) }

/-- An action, with its time stamp read off another clock. -/
def Action.reclocked : Action → Action
  | .add kind d => .add kind (d.reclocked shift)
  | a => a

/-- An operation, with its time stamps read off other clocks. -/
def Operation.reclocked : Operation → Operation
  | .add kind d => .add kind (d.reclocked shift)
  | .change kind id c => .change kind id (c.reclocked shift)
  | .act actions => .act (actions.map (Action.reclocked shift))
  | op => op

variable {shift} {kind : EntityKind}

/-! ### Drafts -/

theorem Draft.reclocked_instant (d : Draft) : (d.reclocked shift).instant = d.instant := by
  obtain ⟨id, name, email, ownerId, _ | t⟩ := d
  · rfl
  · simp only [reclocked, instant, Option.map_some, Stamp.moved_instant]

theorem becomes_reclocked_iff {d : Draft} {others : List (Row kind)} {row : Row kind} :
    (d.reclocked shift).Becomes others row ↔ d.Becomes others row := by
  constructor
  · intro h
    exact ⟨h.fits, h.name, d.reclocked_instant.symm.trans h.createdAt, h.detail, h.freshId,
      h.freshName⟩
  · intro h
    exact ⟨h.fits, h.name, d.reclocked_instant.trans h.createdAt, h.detail, h.freshId, h.freshName⟩

theorem gains_reclocked_iff {t t' : Table kind} {drafts : List Draft} :
    Gains t (drafts.map (Draft.reclocked shift)) t' ↔ Gains t drafts t' := by
  induction drafts generalizing t with
  | nil => exact Iff.rfl
  | cons d drafts ih =>
    constructor
    · rintro (_ | ⟨hid, hrow, hrest⟩)
      exact .row hid (becomes_reclocked_iff.mp hrow) (ih.mp hrest)
    · rintro (_ | ⟨hid, hrow, hrest⟩)
      exact .row hid (becomes_reclocked_iff.mpr hrow) (ih.mpr hrest)

/-! ### Actions -/

theorem draftsOf_reclocked (actions : List Action) (kind : EntityKind) :
    draftsOf (actions.map (Action.reclocked shift)) kind =
      (draftsOf actions kind).map (Draft.reclocked shift) := by
  rw [draftsOf, draftsOf, List.flatMap_map, List.map_flatMap]
  refine congrArg (actions.flatMap ·) (funext fun a => ?_)
  cases a with
  | add other d =>
    rw [Action.reclocked, Action.drafts, Action.drafts]
    split_ifs
    · rfl
    · rfl
  | flush => rfl
  | count _ => rfl
  | latest _ => rfl
  | fail _ => rfl

theorem answerable_reclocked_iff {s : Store} {a : Action} :
    (a.reclocked shift).Answerable s ↔ a.Answerable s := by
  cases a <;> exact Iff.rfl

namespace Store

variable {s : Store}

/-- Units of work make the same of a store if their actions can be answered alike and let the tables
gain the same. -/
theorem apply_act_congr {actions actions' : List Action}
    (hanswerable : (∀ a ∈ actions, a.Answerable s) ↔ ∀ a ∈ actions', a.Answerable s)
    (hgains : ∀ kind t, Gains (s.table kind) (draftsOf actions kind) t ↔
      Gains (s.table kind) (draftsOf actions' kind) t) :
    (s.apply (.act actions)).1 = (s.apply (.act actions')).1 := by
  have hok : (∃ os, (WorkUnit.new.run s (·.performAll actions)).result = .ok os) ↔
      ∃ os, (WorkUnit.new.run s (·.performAll actions')).result = .ok os := by
    simp only [WorkUnit.exists_ok_iff, hanswerable, hgains]
  show (WorkUnit.new.run s (·.performAll actions)).store =
    (WorkUnit.new.run s (·.performAll actions')).store
  rcases h : (WorkUnit.new.run s (·.performAll actions)).result with f | os
  · rcases h' : (WorkUnit.new.run s (·.performAll actions')).result with g | os'
    · rw [WorkUnit.run_store_of_error h, WorkUnit.run_store_of_error h']
    · obtain ⟨os, hos⟩ := hok.mpr ⟨os', h'⟩
      cases h.symm.trans hos
  · obtain ⟨os', h'⟩ := hok.mp ⟨os, h⟩
    refine ext_table fun kind => ?_
    have hfirst := (hgains kind _).mp (WorkUnit.gains_of_ok h kind)
    exact hfirst.eq (WorkUnit.gains_of_ok h' kind)

/-! ### Operations -/

theorem apply_act_reclocked (s : Store) (actions : List Action) :
    (s.apply (.act (actions.map (Action.reclocked shift)))).1 = (s.apply (.act actions)).1 := by
  refine apply_act_congr ?_ fun kind t => ?_
  · rw [List.forall_mem_map]
    exact forall₂_congr fun a _ => answerable_reclocked_iff
  · rw [draftsOf_reclocked, gains_reclocked_iff]

theorem changeRow_reclocked (rows : List (Row kind)) (row : Row kind) (c : Change) :
    changeRow rows row (c.reclocked shift) = changeRow rows row c := by
  rw [changeRow, changeRow, Change.apply, Change.apply]
  by_cases howner : c.ownerId.isSome ∧ kind ≠ .repository
  · rw [if_pos howner, if_pos (by exact howner)]
  · rw [if_neg howner, if_neg (by exact howner)]
    obtain ⟨name, _ | _ | t, ownerId⟩ := c
    · rfl
    · rfl
    · -- The checks look at the instant of a draft and not at its time stamp.
      let d : Draft := { row.draft with
        name := name.getD row.draft.name
        ownerId := ownerId.getD row.draft.ownerId }
      have hinstant : { d with createdAt := some (t.moved (shift t)) }.instant =
          { d with createdAt := some t }.instant := by
        simp only [Draft.instant, Stamp.moved_instant]
      show (Draft.instant _ >>= _) = (Draft.instant _ >>= _)
      exact congrArg (· >>= _) hinstant

theorem change_reclocked (s : Store) (kind : EntityKind) (id : Int) (c : Change) :
    s.change kind id (c.reclocked shift) = s.change kind id c := by
  simp only [change, changeRow_reclocked]

theorem apply_reclocked (s : Store) (op : Operation) :
    (s.apply (op.reclocked shift)).1 = (s.apply op).1 := by
  cases op with
  | create => rfl
  | drop _ => rfl
  | add kind d =>
    rw [Operation.reclocked, apply_add_fst, apply_add_fst]
    exact s.apply_act_reclocked [.add kind d]
  | change kind id c =>
    show (s.settle (s.change kind id (c.reclocked shift) >>= _)).1 =
      (s.settle (s.change kind id c >>= _)).1
    rw [change_reclocked]
  | delete _ _ => rfl
  | act actions => exact s.apply_act_reclocked actions

/-- Operations make the same store whatever clocks their time stamps are read off. -/
theorem applyAll_reclocked (s : Store) (ops : List Operation) :
    s.applyAll (ops.map (Operation.reclocked shift)) = s.applyAll ops := by
  induction ops generalizing s with
  | nil => rfl
  | cons op ops ih => rw [List.map_cons, applyAll_cons, applyAll_cons, apply_reclocked, ih]

end Store

end ForgeDashboard
