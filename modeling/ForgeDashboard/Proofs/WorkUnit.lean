import ForgeDashboard.Proofs.Flush
import ForgeDashboard.Proofs.LatestRow

/-!
# Units of work are all or nothing

A unit of work in which everything succeeds lets every table gain the drafts that were queued for
it, each exactly once and in the order of queueing, however often the queue was flushed on the way.
In every other case the store is what it was, and the failure is that of the first action that
failed, or that of the final commit.  A look at the store sees the committed rows and those queued
before the look.  When the unit has ended its session is gone, and the unit may be entered again.

## Main definitions

* `draftsOf` : the drafts that actions queue for a kind.
* `Action.Answerable` : an action that asks for nothing that is not there.
* `Session.Advances` : what a session may become when drafts are queued in it.

## Main results

* `performAll_advances` : what actions make of a session.
* `exists_performAll_commit_iff` : when nothing fails.
* `unit_is_all_or_nothing` : what a unit of work leaves behind, and what is seen inside.
-/

namespace ForgeDashboard

/-! ### What actions queue and ask -/

/-- The drafts that an action queues for a kind. -/
def Action.drafts (kind : EntityKind) : Action → List Draft
  | .add other d => if other = kind then [d] else []
  | _ => []

/-- The drafts that actions queue for a kind. -/
def draftsOf (actions : List Action) (kind : EntityKind) : List Draft :=
  actions.flatMap (Action.drafts kind)

/-- An action that asks for nothing that is not there: the caller does not give up, and a look at
the store names a kind whose table exists. -/
def Action.Answerable (s : Store) : Action → Prop
  | .add _ _ => True
  | .flush => True
  | .count v => ∃ kind, EntityKind.parse v = .ok kind ∧ (s.table kind).isSome
  | .latest v => ∃ kind, EntityKind.parse v = .ok kind ∧ (s.table kind).isSome
  | .fail _ => False

theorem Action.Answerable.of_isSome_eq {s s' : Store} {a : Action}
    (h : ∀ kind, (s'.table kind).isSome = (s.table kind).isSome) (ha : a.Answerable s) :
    a.Answerable s' := by
  cases a with
  | add _ _ => exact ha
  | flush => exact ha
  | count v =>
    obtain ⟨kind, hkind, htable⟩ := ha
    exact ⟨kind, hkind, (h kind).trans htable⟩
  | latest v =>
    obtain ⟨kind, hkind, htable⟩ := ha
    exact ⟨kind, hkind, (h kind).trans htable⟩
  | fail _ => exact ha

namespace Session

variable {x x' x'' : Session} {s : Store} {drafts rest : EntityKind → List Draft}

theorem queued_add (x : Session) (other : EntityKind) (d : Draft) (kind : EntityKind) :
    (x.add other d).queued kind = x.queued kind ++ (Action.add other d).drafts kind := by
  by_cases h : other = kind <;> simp [queued, add, Action.drafts, h]

/-! ### Single actions -/

theorem perform_flush_eq_ok_iff {o : Outcome} :
    x.perform .flush = .ok (o, x') ↔ x.flush = .ok x' ∧ o = .flushed := by
  simp only [perform, bind_eq_ok_iff, pure, Except.pure, Except.ok.injEq, Prod.mk.injEq]
  constructor
  · rintro ⟨_, hflush, rfl, rfl⟩
    exact ⟨hflush, rfl⟩
  · rintro ⟨hflush, rfl⟩
    exact ⟨_, hflush, rfl, rfl⟩

/-- A count flushes first and then tells the number of rows. -/
theorem perform_count_eq_ok_iff {v : Value} {o : Outcome} :
    x.perform (.count v) = .ok (o, x') ↔ ∃ kind rows, EntityKind.parse v = .ok kind ∧
      x.flush = .ok x' ∧ x'.store.table kind = some rows ∧ o = .counted rows.length := by
  simp only [perform, Store.count, bind_eq_ok_iff, Store.rows_eq_ok_iff, pure, Except.pure,
    Except.ok.injEq, Prod.mk.injEq]
  constructor
  · rintro ⟨kind, hkind, _, hflush, _, ⟨rows, hrows, rfl⟩, rfl, rfl⟩
    exact ⟨kind, rows, hkind, hflush, hrows, rfl⟩
  · rintro ⟨kind, rows, hkind, hflush, hrows, rfl⟩
    exact ⟨kind, hkind, _, hflush, _, ⟨rows, hrows, rfl⟩, rfl, rfl⟩

/-- A look for the latest row flushes first and then tells number and name of that row. -/
theorem perform_latest_eq_ok_iff {v : Value} {o : Outcome} :
    x.perform (.latest v) = .ok (o, x') ↔ ∃ kind rows, EntityKind.parse v = .ok kind ∧
      x.flush = .ok x' ∧ x'.store.table kind = some rows ∧
        o = .found ((latestRow rows).map fun row => (row.id, row.name)) := by
  simp only [perform, Store.latest, bind_eq_ok_iff, Store.rows_eq_ok_iff, pure, Except.pure,
    Except.ok.injEq, Prod.mk.injEq]
  constructor
  · rintro ⟨kind, hkind, _, hflush, _, ⟨rows, hrows, rfl⟩, rfl, rfl⟩
    exact ⟨kind, rows, hkind, hflush, hrows, rfl⟩
  · rintro ⟨kind, rows, hkind, hflush, hrows, rfl⟩
    exact ⟨kind, hkind, _, hflush, _, ⟨rows, hrows, rfl⟩, rfl, rfl⟩

/-! ### What becomes of a session -/

/-- A session has become another one while drafts were queued: of those queued before and the new
ones, the first few were gained by the tables and the others are still queued. -/
def Advances (x : Session) (drafts : EntityKind → List Draft) (x' : Session) : Prop :=
  ∀ kind, ∃ flushed, Gains (x.store.table kind) flushed (x'.store.table kind) ∧
    flushed ++ x'.queued kind = x.queued kind ++ drafts kind

theorem Advances.trans (h : x.Advances drafts x') (h' : x'.Advances rest x'') :
    x.Advances (fun kind => drafts kind ++ rest kind) x'' := by
  intro kind
  obtain ⟨first, hfirst, hqueue⟩ := h kind
  obtain ⟨second, hsecond, hqueue'⟩ := h' kind
  refine ⟨first ++ second, gains_append_iff.mpr ⟨_, hfirst, hsecond⟩, ?_⟩
  rw [List.append_assoc, hqueue', ← List.append_assoc, hqueue, List.append_assoc]

theorem Advances.isSome_eq (h : x.Advances drafts x') (kind : EntityKind) :
    (x'.store.table kind).isSome = (x.store.table kind).isSome := by
  obtain ⟨_, hgains, -⟩ := h kind
  exact hgains.isSome_eq

/-- Drafts that are gained after all are gained behind those that were gained before. -/
theorem Advances.gains {t : (kind : EntityKind) → Table kind} (h : x.Advances drafts x')
    (ht : ∀ kind, Gains (x'.store.table kind) (x'.queued kind) (t kind)) (kind : EntityKind) :
    Gains (x.store.table kind) (x.queued kind ++ drafts kind) (t kind) := by
  obtain ⟨flushed, hgains, hqueue⟩ := h kind
  rw [← hqueue]
  exact gains_append_iff.mpr ⟨_, hgains, ht kind⟩

theorem advances_of_flush (h : x.flush = .ok x') : x.Advances (fun _ => []) x' := by
  intro kind
  refine ⟨x.queued kind, (flush_eq_ok_iff.mp h).2 kind, ?_⟩
  rw [queued_of_flush h]

theorem advances_add (x : Session) (other : EntityKind) (d : Draft) :
    x.Advances (Action.drafts · (.add other d)) (x.add other d) :=
  fun kind => ⟨[], .nothing _, queued_add x other d kind⟩

theorem perform_advances {a : Action} {o : Outcome} (h : x.perform a = .ok (o, x')) :
    x.Advances (Action.drafts · a) x' := by
  cases a with
  | add other d =>
    cases h
    exact advances_add x other d
  | flush => exact advances_of_flush (perform_flush_eq_ok_iff.mp h).1
  | count v =>
    obtain ⟨_, _, -, hflush, -⟩ := perform_count_eq_ok_iff.mp h
    exact advances_of_flush hflush
  | latest v =>
    obtain ⟨_, _, -, hflush, -⟩ := perform_latest_eq_ok_iff.mp h
    exact advances_of_flush hflush
  | fail _ => cases h

theorem performAll_cons_eq_ok_iff {a : Action} {actions : List Action} {outcomes : List Outcome} :
    x.performAll (a :: actions) = .ok (outcomes, x') ↔
      ∃ o x₁ os, x.perform a = .ok (o, x₁) ∧ x₁.performAll actions = .ok (os, x') ∧
        outcomes = o :: os := by
  simp only [performAll, bind_eq_ok_iff, Prod.exists, pure, Except.pure, Except.ok.injEq,
    Prod.mk.injEq]
  constructor
  · rintro ⟨o, x₁, ho, os, _, hos, rfl, rfl⟩
    exact ⟨o, x₁, os, ho, hos, rfl⟩
  · rintro ⟨o, x₁, os, ho, hos, rfl⟩
    exact ⟨o, x₁, ho, os, _, hos, rfl, rfl⟩

/-- Actions let the tables gain some of the drafts that they queue, and leave the others queued. -/
theorem performAll_advances {actions : List Action} {outcomes : List Outcome}
    (h : x.performAll actions = .ok (outcomes, x')) : x.Advances (draftsOf actions) x' := by
  induction actions generalizing x outcomes with
  | nil =>
    cases h
    exact fun kind => ⟨[], .nothing _, (List.append_nil _).symm⟩
  | cons a actions ih =>
    obtain ⟨o, x₁, os, ha, hrest, rfl⟩ := performAll_cons_eq_ok_iff.mp h
    exact (perform_advances ha).trans (ih hrest)

/-- An action that comes last sees what the actions before it left. -/
theorem performAll_concat_eq_ok_iff {actions : List Action} {a : Action}
    {outcomes : List Outcome} :
    x.performAll (actions ++ [a]) = .ok (outcomes, x') ↔
      ∃ os x₁ o, x.performAll actions = .ok (os, x₁) ∧ x₁.perform a = .ok (o, x') ∧
        outcomes = os ++ [o] := by
  induction actions generalizing x outcomes with
  | nil =>
    rw [List.nil_append, performAll_cons_eq_ok_iff]
    simp only [performAll, pure, Except.pure, Except.ok.injEq, Prod.mk.injEq]
    constructor
    · rintro ⟨o, _, _, ho, ⟨rfl, rfl⟩, rfl⟩
      exact ⟨[], x, o, ⟨rfl, rfl⟩, ho, rfl⟩
    · rintro ⟨_, _, o, ⟨rfl, rfl⟩, ho, rfl⟩
      exact ⟨o, _, [], ho, ⟨rfl, rfl⟩, rfl⟩
  | cons b actions ih =>
    simp only [List.cons_append, performAll_cons_eq_ok_iff, ih]
    constructor
    · rintro ⟨o, x₁, _, hb, ⟨os, x₂, o', hos, ho', rfl⟩, rfl⟩
      exact ⟨o :: os, x₂, o', ⟨o, x₁, os, hb, hos, rfl⟩, ho', rfl⟩
    · rintro ⟨_, x₂, o', ⟨o, x₁, os, hb, hos, rfl⟩, ho', rfl⟩
      exact ⟨o, x₁, os ++ [o'], hb, ⟨os, x₂, o', hos, ho', rfl⟩, rfl⟩

theorem performAll_cons_of_error {a : Action} {actions : List Action} {f : Fault}
    (h : x.perform a = .error f) : x.performAll (a :: actions) = .error f := by
  rw [performAll, h]
  rfl

theorem performAll_cons_of_ok {a : Action} {actions : List Action} {o : Outcome}
    (h : x.perform a = .ok (o, x')) {f : Fault} :
    x.performAll (a :: actions) = .error f ↔ x'.performAll actions = .error f := by
  rw [performAll, h]
  show (x'.performAll actions >>= _) = _ ↔ _
  rcases x'.performAll actions with g | ⟨os, x₂⟩
  · exact Iff.rfl
  · exact iff_of_false (by rintro ⟨⟩) (by rintro ⟨⟩)

/-- Actions fail as the first of them that fails. -/
theorem performAll_eq_error_iff {actions : List Action} {f : Fault} :
    x.performAll actions = .error f ↔
      ∃ before a after os x', actions = before ++ a :: after ∧
        x.performAll before = .ok (os, x') ∧ x'.perform a = .error f := by
  constructor
  · intro h
    induction actions generalizing x with
    | nil => cases h
    | cons a actions ih =>
      rcases ha : x.perform a with g | ⟨o, x₁⟩
      · obtain rfl : g = f := Except.error.inj ((performAll_cons_of_error ha).symm.trans h)
        exact ⟨[], a, actions, [], x, rfl, rfl, ha⟩
      · obtain ⟨before, b, after, os, x', rfl, hbefore, hb⟩ :=
          ih ((performAll_cons_of_ok ha).mp h)
        exact ⟨a :: before, b, after, o :: os, x', rfl,
          performAll_cons_eq_ok_iff.mpr ⟨o, x₁, os, ha, hbefore, rfl⟩, hb⟩
  · rintro ⟨before, b, after, os, x', rfl, hbefore, hb⟩
    induction before generalizing x os with
    | nil =>
      cases hbefore
      exact performAll_cons_of_error hb
    | cons a before ih =>
      obtain ⟨o, x₁, os, ha, hrest, -⟩ := performAll_cons_eq_ok_iff.mp hbefore
      exact (performAll_cons_of_ok ha).mpr (ih _ hrest)

/-! ### When nothing fails -/

/-- A flush succeeds if every table can gain the drafts that are queued for it. -/
theorem exists_flush
    (h : ∀ kind, ∃ t, Gains (x.store.table kind) (x.queued kind ++ rest kind) t) :
    ∃ x', x.flush = .ok x' ∧
      ∀ kind, ∃ t, Gains (x'.store.table kind) (x'.queued kind ++ rest kind) t := by
  have hportions (kind : EntityKind) : ∃ t, Gains (x.store.table kind) (x.queued kind) t ∧
      ∃ u, Gains t (rest kind) u := by
    obtain ⟨u, hu⟩ := h kind
    obtain ⟨t, ht, hrest⟩ := gains_append_iff.mp hu
    exact ⟨t, ht, u, hrest⟩
  obtain ⟨s, hs⟩ := Store.exists_table_iff.mpr hportions
  exact ⟨start s, flush_eq_ok_iff.mpr ⟨rfl, fun kind => (hs kind).1⟩, fun kind => (hs kind).2⟩

/-- An action that asks for nothing that is not there succeeds if every table can gain the drafts
that are queued for it. -/
theorem exists_perform {a : Action} (ha : a.Answerable x.store)
    (h : ∀ kind, ∃ t,
      Gains (x.store.table kind) (x.queued kind ++ (a.drafts kind ++ rest kind)) t) :
    ∃ o x', x.perform a = .ok (o, x') ∧
      ∀ kind, ∃ t, Gains (x'.store.table kind) (x'.queued kind ++ rest kind) t := by
  have htable {x' : Session} {kind : EntityKind} (hflush : x.flush = .ok x')
      (hkind : (x.store.table kind).isSome) : ∃ rows, x'.store.table kind = some rows :=
    Option.isSome_iff_exists.mp (((advances_of_flush hflush).isSome_eq kind).trans hkind)
  cases a with
  | add other d =>
    refine ⟨.queued, x.add other d, rfl, fun kind => ?_⟩
    rw [queued_add, List.append_assoc]
    exact h kind
  | flush =>
    obtain ⟨x', hflush, hrest⟩ := exists_flush h
    exact ⟨_, x', perform_flush_eq_ok_iff.mpr ⟨hflush, rfl⟩, hrest⟩
  | count v =>
    obtain ⟨kind, hparse, hkind⟩ := ha
    obtain ⟨x', hflush, hrest⟩ := exists_flush h
    obtain ⟨rows, hrows⟩ := htable hflush hkind
    exact ⟨_, x', perform_count_eq_ok_iff.mpr ⟨kind, rows, hparse, hflush, hrows, rfl⟩, hrest⟩
  | latest v =>
    obtain ⟨kind, hparse, hkind⟩ := ha
    obtain ⟨x', hflush, hrest⟩ := exists_flush h
    obtain ⟨rows, hrows⟩ := htable hflush hkind
    exact ⟨_, x', perform_latest_eq_ok_iff.mpr ⟨kind, rows, hparse, hflush, hrows, rfl⟩, hrest⟩
  | fail _ => exact ha.elim

theorem answerable_of_perform {a : Action} {o : Outcome} (h : x.perform a = .ok (o, x')) :
    a.Answerable x.store := by
  have htable {kind : EntityKind} {rows : List (Row kind)} (hflush : x.flush = .ok x')
      (hrows : x'.store.table kind = some rows) : (x.store.table kind).isSome := by
    rw [← (advances_of_flush hflush).isSome_eq, hrows]
    rfl
  cases a with
  | add _ _ => trivial
  | flush => trivial
  | count v =>
    obtain ⟨kind, rows, hparse, hflush, hrows, -⟩ := perform_count_eq_ok_iff.mp h
    exact ⟨kind, hparse, htable hflush hrows⟩
  | latest v =>
    obtain ⟨kind, rows, hparse, hflush, hrows, -⟩ := perform_latest_eq_ok_iff.mp h
    exact ⟨kind, hparse, htable hflush hrows⟩
  | fail _ => cases h

theorem answerable_of_performAll {actions : List Action} {os : List Outcome}
    (h : x.performAll actions = .ok (os, x')) : ∀ a ∈ actions, a.Answerable x.store := by
  induction actions generalizing x os with
  | nil => simp
  | cons a actions ih =>
    obtain ⟨o, x₁, os, ha, hrest, -⟩ := performAll_cons_eq_ok_iff.mp h
    refine List.forall_mem_cons.mpr ⟨answerable_of_perform ha, fun b hb => ?_⟩
    exact (ih hrest b hb).of_isSome_eq fun kind => ((perform_advances ha).isSome_eq kind).symm

/-- Actions and the commit behind them succeed exactly if the actions ask for nothing that is not
there and every table can gain the drafts that are queued for it. -/
theorem exists_performAll_commit_iff {actions : List Action} :
    (∃ os x' s, x.performAll actions = .ok (os, x') ∧ x'.commit = .ok s) ↔
      (∀ a ∈ actions, a.Answerable x.store) ∧
        ∀ kind, ∃ t, Gains (x.store.table kind) (x.queued kind ++ draftsOf actions kind) t := by
  constructor
  · rintro ⟨os, x', s, hactions, hcommit⟩
    refine ⟨answerable_of_performAll hactions, fun kind => ⟨s.table kind, ?_⟩⟩
    exact (performAll_advances hactions).gains (commit_eq_ok_iff.mp hcommit) kind
  · rintro ⟨hactions, hgains⟩
    induction actions generalizing x with
    | nil =>
      obtain ⟨s, hs⟩ := Store.exists_table_iff.mpr hgains
      refine ⟨[], x, s, rfl, commit_eq_ok_iff.mpr fun kind => ?_⟩
      simpa [draftsOf] using hs kind
    | cons a actions ih =>
      obtain ⟨ha, hrest⟩ := List.forall_mem_cons.mp hactions
      obtain ⟨o, x₁, hperform, hgains₁⟩ := exists_perform ha hgains
      have hrest₁ : ∀ b ∈ actions, b.Answerable x₁.store := fun b hb =>
        (hrest b hb).of_isSome_eq (perform_advances hperform).isSome_eq
      obtain ⟨os, x', s, hos, hcommit⟩ := ih hrest₁ hgains₁
      exact ⟨o :: os, x', s,
        performAll_cons_eq_ok_iff.mpr ⟨o, x₁, os, hperform, hos, rfl⟩, hcommit⟩

/-! ### What is seen inside -/

/-- A look at the store behind other actions sees the rows of the start and the drafts that those
actions queued. -/
theorem gains_of_look {actions : List Action} {os : List Outcome} {kind : EntityKind}
    {rows : List (Row kind)} (hactions : (start s).performAll actions = .ok (os, x))
    (hflush : x.flush = .ok x') (hrows : x'.store.table kind = some rows) :
    Gains (s.table kind) (draftsOf actions kind) (some rows) := by
  have hgains := (performAll_advances hactions).gains (flush_eq_ok_iff.mp hflush).2 kind
  rwa [hrows] at hgains

theorem count_sees_queued {actions : List Action} {v : Value} {os : List Outcome}
    (h : (start s).performAll (actions ++ [.count v]) = .ok (os, x)) :
    ∃ kind rows, EntityKind.parse v = .ok kind ∧
      Gains (s.table kind) (draftsOf actions kind) (some rows) ∧
      os.getLast? = some (.counted rows.length) := by
  obtain ⟨os, x₁, _, hactions, hlook, rfl⟩ := performAll_concat_eq_ok_iff.mp h
  obtain ⟨kind, rows, hparse, hflush, hrows, rfl⟩ := perform_count_eq_ok_iff.mp hlook
  exact ⟨kind, rows, hparse, gains_of_look hactions hflush hrows, List.getLast?_concat⟩

theorem latest_sees_queued {actions : List Action} {v : Value} {os : List Outcome}
    (h : (start s).performAll (actions ++ [.latest v]) = .ok (os, x)) :
    ∃ kind rows found, EntityKind.parse v = .ok kind ∧
      Gains (s.table kind) (draftsOf actions kind) (some rows) ∧ IsLatest rows found ∧
      os.getLast? = some (.found (found.map fun row => (row.id, row.name))) := by
  obtain ⟨os, x₁, _, hactions, hlook, rfl⟩ := performAll_concat_eq_ok_iff.mp h
  obtain ⟨kind, rows, hparse, hflush, hrows, rfl⟩ := perform_latest_eq_ok_iff.mp hlook
  exact ⟨kind, rows, _, hparse, gains_of_look hactions hflush hrows, isLatest_latestRow rows,
    List.getLast?_concat⟩

end Session

/-! ### Running a unit of work -/

namespace WorkUnit

variable {α : Type} (u : WorkUnit) (s : Store) (body : Session → Except Fault (α × Session))

/-- A unit of work ends in one of two ways: its body and the commit succeed, and what they made of
the store stays; or one of them fails, and the store stays what it was. -/
theorem run_cases :
    (∃ a x s', body (.start s) = .ok (a, x) ∧ x.commit = .ok s' ∧
      u.run s body = ⟨.new, s', .ok a⟩) ∨
    ∃ f, (body (.start s) = .error f ∨ ∃ a x, body (.start s) = .ok (a, x) ∧ x.commit = .error f) ∧
      u.run s body = ⟨.new, s, .error f⟩ := by
  rcases hbody : body (.start s) with f | ⟨a, x⟩
  · refine Or.inr ⟨f, Or.inl rfl, ?_⟩
    simp only [run, enter, session, hbody, bind, Except.bind]
    rfl
  · rcases hcommit : x.commit with f | s'
    · refine Or.inr ⟨f, Or.inr ⟨a, x, rfl, hcommit⟩, ?_⟩
      simp only [run, enter, session, hbody, hcommit, bind, Except.bind]
      rfl
    · refine Or.inl ⟨a, x, s', rfl, hcommit, ?_⟩
      simp only [run, enter, session, hbody, hcommit, bind, Except.bind, pure, Except.pure]
      rfl

variable {u s body}

theorem run_unit : (u.run s body).unit = .new := by
  rcases u.run_cases s body with ⟨_, _, _, -, -, hrun⟩ | ⟨_, -, hrun⟩
  · rw [hrun]
  · rw [hrun]

theorem run_of_commit {a : α} {x : Session} {s' : Store} (hbody : body (.start s) = .ok (a, x))
    (hcommit : x.commit = .ok s') : u.run s body = ⟨.new, s', .ok a⟩ := by
  rcases u.run_cases s body with ⟨b, y, t, hb, ht, hrun⟩ | ⟨f, hf | ⟨b, y, hb, hf⟩, -⟩
  · cases hbody.symm.trans hb
    cases hcommit.symm.trans ht
    exact hrun
  · cases hbody.symm.trans hf
  · cases hbody.symm.trans hb
    cases hcommit.symm.trans hf

/-- A unit of work fails as its body or, after it, the commit does. -/
theorem run_result_eq_error_iff {f : Fault} :
    (u.run s body).result = .error f ↔
      body (.start s) = .error f ∨ ∃ a x, body (.start s) = .ok (a, x) ∧ x.commit = .error f := by
  rcases u.run_cases s body with ⟨a, x, s', hbody, hcommit, hrun⟩ | ⟨g, hfail, hrun⟩
  · rw [hrun]
    refine iff_of_false (by rintro ⟨⟩) ?_
    rintro (hf | ⟨b, y, hb, hf⟩)
    · cases hbody.symm.trans hf
    · cases hbody.symm.trans hb
      cases hcommit.symm.trans hf
  · rw [hrun]
    constructor
    · rintro ⟨⟩
      exact hfail
    · rintro (hf | ⟨b, y, hb, hf⟩)
      · rcases hfail with hg | ⟨a, x, ha, -⟩
        · exact congrArg Except.error (Except.error.inj (hg.symm.trans hf))
        · cases ha.symm.trans hf
      · rcases hfail with hg | ⟨a, x, ha, hg⟩
        · cases hg.symm.trans hb
        · cases ha.symm.trans hb
          exact congrArg Except.error (Except.error.inj (hg.symm.trans hf))

theorem run_store_of_error {f : Fault} (h : (u.run s body).result = .error f) :
    (u.run s body).store = s := by
  rcases u.run_cases s body with ⟨_, _, _, -, -, hrun⟩ | ⟨_, -, hrun⟩
  · rw [hrun] at h
    cases h
  · rw [hrun]

/-- A unit of work that gives a result was committed. -/
theorem exists_commit_of_ok {a : α} (h : (u.run s body).result = .ok a) :
    ∃ x, body (.start s) = .ok (a, x) ∧ x.commit = .ok (u.run s body).store := by
  rcases u.run_cases s body with ⟨b, x, s', hbody, hcommit, hrun⟩ | ⟨_, -, hrun⟩
  · rw [hrun] at h ⊢
    cases h
    exact ⟨x, hbody, hcommit⟩
  · rw [hrun] at h
    cases h

variable {actions : List Action}

/-- A unit of work in which nothing fails lets every table gain the drafts that were queued for
it. -/
theorem gains_of_ok {os : List Outcome}
    (h : (u.run s (·.performAll actions)).result = .ok os) (kind : EntityKind) :
    Gains (s.table kind) (draftsOf actions kind)
      ((u.run s (·.performAll actions)).store.table kind) := by
  obtain ⟨x, hactions, hcommit⟩ := exists_commit_of_ok h
  exact (Session.performAll_advances hactions).gains (Session.commit_eq_ok_iff.mp hcommit) kind

/-- Nothing fails exactly if the actions ask for nothing that is not there and every table can gain
the drafts that are queued for it. -/
theorem exists_ok_iff :
    (∃ os, (u.run s (·.performAll actions)).result = .ok os) ↔
      (∀ a ∈ actions, a.Answerable s) ∧
        ∀ kind, ∃ t, Gains (s.table kind) (draftsOf actions kind) t := by
  refine Iff.trans ?_ (Session.exists_performAll_commit_iff (x := .start s))
  constructor
  · rintro ⟨os, h⟩
    obtain ⟨x, hactions, hcommit⟩ := exists_commit_of_ok h
    exact ⟨os, x, _, hactions, hcommit⟩
  · rintro ⟨os, x, s', hactions, hcommit⟩
    exact ⟨os, congrArg Ended.result (run_of_commit hactions hcommit)⟩

end WorkUnit

/-- A unit of work is all or nothing.  It fails with the failure of the first action that fails, or
of the final commit, and then the store stays what it was; otherwise every table gains the drafts
that were queued for it, and nothing else happens.  It succeeds exactly if the actions ask for
nothing that is not there and the tables can gain those drafts.  Inside, a look at the store sees
the committed rows and those queued before the look.  Afterwards the session is gone, and the unit
may be entered again with a new one. -/
theorem unit_is_all_or_nothing (u : WorkUnit) (s : Store) (actions : List Action) :
    (∀ f, (u.run s (·.performAll actions)).result = .error f ↔
      (∃ before a after os x, actions = before ++ a :: after ∧
        (Session.start s).performAll before = .ok (os, x) ∧ x.perform a = .error f) ∨
      ∃ os x, (Session.start s).performAll actions = .ok (os, x) ∧ x.commit = .error f) ∧
    (∀ f, (u.run s (·.performAll actions)).result = .error f →
      (u.run s (·.performAll actions)).store = s) ∧
    (∀ os, (u.run s (·.performAll actions)).result = .ok os → ∀ kind,
      Gains (s.table kind) (draftsOf actions kind)
        ((u.run s (·.performAll actions)).store.table kind)) ∧
    ((∃ os, (u.run s (·.performAll actions)).result = .ok os) ↔
      (∀ a ∈ actions, a.Answerable s) ∧
        ∀ kind, ∃ t, Gains (s.table kind) (draftsOf actions kind) t) ∧
    (∀ before v os x, (Session.start s).performAll (before ++ [.count v]) = .ok (os, x) →
      ∃ kind rows, EntityKind.parse v = .ok kind ∧
        Gains (s.table kind) (draftsOf before kind) (some rows) ∧
        os.getLast? = some (.counted rows.length)) ∧
    (∀ before v os x, (Session.start s).performAll (before ++ [.latest v]) = .ok (os, x) →
      ∃ kind rows found, EntityKind.parse v = .ok kind ∧
        Gains (s.table kind) (draftsOf before kind) (some rows) ∧ IsLatest rows found ∧
        os.getLast? = some (.found (found.map fun row => (row.id, row.name)))) ∧
    (u.run s (·.performAll actions)).unit.session = .error .closedUnit ∧
    Fault.closedUnit.kind = .runtime ∧
    ∀ s', ((u.run s (·.performAll actions)).unit.enter s').session = .ok (.start s') := by
  refine ⟨fun f => ?_, fun f => WorkUnit.run_store_of_error, fun os => WorkUnit.gains_of_ok,
    WorkUnit.exists_ok_iff, fun _ _ _ _ => Session.count_sees_queued,
    fun _ _ _ _ => Session.latest_sees_queued, ?_, rfl, fun _ => rfl⟩
  · rw [WorkUnit.run_result_eq_error_iff, Session.performAll_eq_error_iff]
  · rw [WorkUnit.run_unit]
    rfl

/-- A user named carol, made at the first moment of 2024, which a clock two hours ahead showed. -/
def carol : Draft where
  id := none
  name := some "carol"
  email := none
  ownerId := none
  createdAt := some ⟨63839671200000000, some 7200000000⟩

/-- A store with empty tables. -/
def freshStore : Store := ⟨some [], some [], some []⟩

/-- One carol is kept.  Two make the unit fail at its end, though the first was flushed and seen. -/
theorem second_carol_undoes_first :
    (∃ os, (WorkUnit.new.run freshStore
        (·.performAll [.add .user carol, .count (.text "user")])).result = .ok os ∧
      Gains (some []) [carol] (WorkUnit.new.run freshStore
        (·.performAll [.add .user carol, .count (.text "user")])).store.users) ∧
    (WorkUnit.new.run freshStore (·.performAll
        [.add .user carol, .count (.text "user"), .add .user carol])).result =
      .error (.duplicateValue "users" "username") ∧
    (WorkUnit.new.run freshStore (·.performAll
        [.add .user carol, .count (.text "user"), .add .user carol])).store = freshStore := by
  have hkept : (WorkUnit.new.run freshStore
      (·.performAll [.add .user carol, .count (.text "user")])).result =
        .ok [.queued, .counted 1] := rfl
  have hundone : (WorkUnit.new.run freshStore (·.performAll
      [.add .user carol, .count (.text "user"), .add .user carol])).result =
        .error (.duplicateValue "users" "username") := rfl
  have hone := unit_is_all_or_nothing .new freshStore [.add .user carol, .count (.text "user")]
  have htwo := unit_is_all_or_nothing .new freshStore
    [.add .user carol, .count (.text "user"), .add .user carol]
  exact ⟨⟨_, hkept, hone.2.2.1 _ hkept .user⟩, hundone, htwo.2.1 _ hundone⟩

end ForgeDashboard
