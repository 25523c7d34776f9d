import Mathlib.Data.List.Forall2
import Mathlib.Data.List.SplitBy
import ForgeDashboard.Proofs.Sections
import ForgeDashboard.Store.Session

/-!
# What a flush adds

A table gains drafts one after another: each becomes a row at the end of the table, with a number of
its own or the next free one, beside all rows before it.  A flush lets every table gain the drafts
that were queued for it, in the order of queueing, and does nothing else; that it sends them in runs
and table by table cannot be seen.  It fails exactly if some table cannot gain its drafts.

## Main definitions

* `Table` : the rows of a table, unless it is missing.
* `Draft.Becomes` : a draft may enter a table as a given row.
* `Gains` : what a table is after it gained drafts.

## Main results

* `Gains.eq` : a table can gain drafts in one way only.
* `gains_append_iff` : drafts may be gained in portions.
* `flush_eq_ok_iff`, `commit_eq_ok_iff` : what a flush and a commit make of a store.
-/

namespace ForgeDashboard

/-! ### Tables -/

/-- The rows of a table in the order of their insertion, unless the table is missing. -/
abbrev Table (kind : EntityKind) : Type := Option (List (Row kind))

namespace Store

@[simp]
theorem table_withTable_self (s : Store) (kind : EntityKind) (t : Table kind) :
    (s.withTable kind t).table kind = t := by
  cases kind <;> rfl

theorem table_withTable_of_ne {s : Store} {kind other : EntityKind} {t : Table kind}
    (h : other ≠ kind) : (s.withTable kind t).table other = s.table other := by
  cases kind <;> cases other <;> simp [withTable, table] at h ⊢

theorem table_createMissing (s : Store) (kind : EntityKind) :
    s.createMissing.table kind = some ((s.table kind).getD []) := by
  cases kind <;> rfl

@[simp]
theorem withTable_table (s : Store) (kind : EntityKind) :
    s.withTable kind (s.table kind) = s := by
  cases kind <;> rfl

@[simp]
theorem withTable_withTable (s : Store) (kind : EntityKind) (t u : Table kind) :
    (s.withTable kind t).withTable kind u = s.withTable kind u := by
  cases kind <;> rfl

/-- A store consists of its tables. -/
theorem ext_table {s s' : Store} (h : ∀ kind, s.table kind = s'.table kind) : s = s' := by
  obtain ⟨users, groups, repositories⟩ := s
  obtain ⟨users', groups', repositories'⟩ := s'
  have husers : users = users' := h .user
  have hgroups : groups = groups' := h .group
  have hrepositories : repositories = repositories' := h .repository
  rw [husers, hgroups, hrepositories]

/-- Tables that are chosen for each kind make up a store. -/
theorem exists_table_iff {p : (kind : EntityKind) → Table kind → Prop} :
    (∃ s : Store, ∀ kind, p kind (s.table kind)) ↔ ∀ kind, ∃ t, p kind t := by
  constructor
  · rintro ⟨s, hs⟩ kind
    exact ⟨_, hs kind⟩
  · intro h
    obtain ⟨users, husers⟩ := h .user
    obtain ⟨groups, hgroups⟩ := h .group
    obtain ⟨repositories, hrepositories⟩ := h .repository
    refine ⟨⟨users, groups, repositories⟩, fun kind => ?_⟩
    cases kind
    · exact husers
    · exact hgroups
    · exact hrepositories

theorem rows_eq_ok_iff {s : Store} {kind : EntityKind} {rows : List (Row kind)} :
    s.rows kind = .ok rows ↔ s.table kind = some rows := by
  rw [Store.rows]
  split
  · next heq => simp [heq]
  · next heq => simp [heq]

end Store

/-! ### Accepted drafts -/

variable {kind : EntityKind}

theorem requireColumn_eq_ok_iff {α : Type} {column : String} {value : Option α} {a : α} :
    requireColumn kind column value = .ok a ↔ value = some a := by
  cases value <;> simp [requireColumn]

/-- A draft may enter a table beside other rows as a given row, whatever number that row has: its
numbers fit, all that is required is there, and nothing that is unique is taken. -/
structure Draft.Becomes (d : Draft) (others : List (Row kind)) (row : Row kind) : Prop where
  fits : d.fits kind = true
  name : d.name = some row.name
  createdAt : d.instant = .ok (some row.createdAt)
  detail : d.detail kind = .ok row.detail
  freshId : ∀ other ∈ others, other.id ≠ row.id
  freshName : kind.hasUniqueName = true → ∀ other ∈ others, other.name ≠ row.name

theorem row_eq_ok_iff {d : Draft} {id : Int} {createdAt : Option Instant} {row : Row kind} :
    d.row kind id createdAt = .ok row ↔
      row.id = id ∧ d.name = some row.name ∧ createdAt = some row.createdAt ∧
        d.detail kind = .ok row.detail := by
  obtain ⟨i, n, t, x⟩ := row
  simp only [Draft.row, bind_eq_ok_iff, requireColumn_eq_ok_iff, pure, Except.pure,
    Except.ok.injEq, Row.mk.injEq]
  constructor
  · rintro ⟨_, hx, _, hn, _, ht, rfl, rfl, rfl, rfl⟩
    exact ⟨rfl, hn, ht, hx⟩
  · rintro ⟨rfl, hn, ht, hx⟩
    exact ⟨_, hx, _, hn, _, ht, rfl, rfl, rfl, rfl⟩

/-- A sequence that starts with a check gives a value if the check passes and the rest gives it. -/
theorem check_eq_ok_iff {α β : Type} {p : Prop} [Decidable p] {f : Fault}
    {refused : α → Except Fault β} {passed : Except Fault β} {b : β} :
    (if p then throw f >>= refused else passed) = .ok b ↔ ¬p ∧ passed = .ok b := by
  by_cases hp : p
  · simp [hp, throw, throwThe, MonadExceptOf.throw, bind, Except.bind]
  · simp [hp]

theorem accept_eq_ok_iff {d : Draft} {others : List (Row kind)} {id : Int}
    {createdAt : Option Instant} {row : Row kind} (h : d.instant = .ok createdAt) :
    d.accept kind others id createdAt = .ok row ↔ row.id = id ∧ d.Becomes others row := by
  simp only [Draft.accept, check_eq_ok_iff, bind_eq_ok_iff, row_eq_ok_iff, pure, Except.pure,
    Except.ok.injEq]
  constructor
  · rintro ⟨hfits, _, ⟨hid, hname, hcreated, hdetail⟩, hfresh, hunique, rfl⟩
    refine ⟨hid, by simpa using hfits, hname, by rw [h, hcreated], hdetail, ?_, ?_⟩
    · simpa using hfresh
    · simpa using hunique
  · rintro ⟨hid, hrow⟩
    have hcreated : createdAt = some row.createdAt := Except.ok.inj (h.symm.trans hrow.createdAt)
    refine ⟨by simpa using hrow.fits, row, ⟨hid, hrow.name, hcreated, hrow.detail⟩, ?_, ?_, rfl⟩
    · simpa using hrow.freshId
    · simpa using hrow.freshName

/-! ### Drafts gained one after another -/

/-- What a table is after it gained drafts: each becomes a row at the end of the table, under its
own number or the next free one, beside all rows before it.  A table that is missing can gain
nothing. -/
inductive Gains : Table kind → List Draft → Table kind → Prop
  | nothing (t : Table kind) : Gains t [] t
  | row {rows : List (Row kind)} {d : Draft} {drafts : List Draft} {t : Table kind}
      {row : Row kind} (hid : row.id = d.id.getD (nextId rows)) (hrow : d.Becomes rows row)
      (rest : Gains (some (rows ++ [row])) drafts t) : Gains (some rows) (d :: drafts) t

/-- A draft becomes at most one row under a given number. -/
theorem Draft.Becomes.eq {d : Draft} {others : List (Row kind)} {row row' : Row kind}
    (h : d.Becomes others row) (h' : d.Becomes others row') (hid : row.id = row'.id) :
    row = row' := by
  have hname : row.name = row'.name := Option.some.inj (h.name.symm.trans h'.name)
  have hcreated : row.createdAt = row'.createdAt :=
    Option.some.inj (Except.ok.inj (h.createdAt.symm.trans h'.createdAt))
  have hdetail : row.detail = row'.detail := Except.ok.inj (h.detail.symm.trans h'.detail)
  obtain ⟨id, name, createdAt, detail⟩ := row
  obtain ⟨id', name', createdAt', detail'⟩ := row'
  simp_all only

section Gains

variable {t t' u : Table kind} {drafts rest : List Draft}

theorem gains_nil_iff : Gains t [] t' ↔ t' = t := by
  constructor
  · rintro ⟨⟩
    rfl
  · rintro rfl
    exact .nothing _

/-- A table can gain drafts in one way only. -/
theorem Gains.eq (h : Gains t drafts t') (h' : Gains t drafts u) : t' = u := by
  induction h with
  | nothing t =>
    cases h' with
    | nothing => rfl
  | row hid hrow _ ih =>
    cases h' with
    | row hid' hrow' rest' =>
      rw [hrow'.eq hrow (hid'.trans hid.symm)] at rest'
      exact ih rest'

/-- Drafts may be gained in portions. -/
theorem gains_append_iff :
    Gains t (drafts ++ rest) u ↔ ∃ t', Gains t drafts t' ∧ Gains t' rest u := by
  constructor
  · intro h
    induction drafts generalizing t with
    | nil => exact ⟨t, .nothing t, h⟩
    | cons d drafts ih =>
      cases h with
      | row hid hrow hrest =>
        obtain ⟨t', hfirst, hsecond⟩ := ih hrest
        exact ⟨t', .row hid hrow hfirst, hsecond⟩
  · rintro ⟨t', hfirst, hsecond⟩
    induction hfirst with
    | nothing => exact hsecond
    | row hid hrow _ ih => exact .row hid hrow (ih hsecond)

/-- A table that gains drafts keeps its rows, in front of one new row for each draft. -/
theorem Gains.exists_append {rows : List (Row kind)} (h : Gains (some rows) drafts t') :
    ∃ added, t' = some (rows ++ added) ∧ added.length = drafts.length := by
  induction drafts generalizing rows with
  | nil =>
    cases h
    exact ⟨[], by rw [List.append_nil], rfl⟩
  | cons d drafts ih =>
    cases h with
    | @row _ _ _ _ row hid hrow hrest =>
      obtain ⟨added, rfl, hlength⟩ := ih hrest
      refine ⟨row :: added, by rw [List.append_assoc, List.singleton_append], ?_⟩
      rw [List.length_cons, List.length_cons, hlength]

/-- A table is missing after it gained drafts if it was missing before. -/
theorem Gains.isSome_eq (h : Gains t drafts t') : t'.isSome = t.isSome := by
  cases h with
  | nothing => rfl
  | row hid hrow hrest =>
    obtain ⟨added, rfl, -⟩ := hrest.exists_append
    rfl

end Gains

/-! ### Inserting into a table -/

theorem insertRow_eq_ok_iff {rows rows' : List (Row kind)} {d : Draft} {createdAt : Option Instant}
    (h : d.instant = .ok createdAt) :
    insertRow rows d createdAt = .ok rows' ↔
      ∃ row, row.id = d.id.getD (nextId rows) ∧ d.Becomes rows row ∧ rows' = rows ++ [row] := by
  simp only [insertRow, bind_eq_ok_iff, accept_eq_ok_iff h, pure, Except.pure, Except.ok.injEq,
    and_assoc, eq_comm (a := rows')]

/-- Drafts beside the instants of their creation. -/
abbrev Dated (drafts : List Draft) (dated : List (Draft × Option Instant)) : Prop :=
  List.Forall₂ (fun d entry => entry.1 = d ∧ d.instant = .ok entry.2) drafts dated

theorem mapM_dated_eq_ok_iff {drafts : List Draft} {dated : List (Draft × Option Instant)} :
    (drafts.mapM fun d => return (d, ← d.instant)) = .ok dated ↔ Dated drafts dated := by
  induction drafts generalizing dated with
  | nil => simp [pure, Except.pure, eq_comm]
  | cons d drafts ih =>
    simp only [List.mapM_cons, bind_eq_ok_iff, pure, Except.pure, Except.ok.injEq] at ih ⊢
    constructor
    · rintro ⟨_, ⟨i, hi, rfl⟩, rest, hrest, rfl⟩
      exact .cons ⟨rfl, hi⟩ (ih.mp hrest)
    · rintro (_ | ⟨⟨rfl, hi⟩, hrest⟩)
      exact ⟨_, ⟨_, hi, rfl⟩, _, ih.mpr hrest, rfl⟩

/-- Adding dated drafts one after another is gaining them. -/
theorem foldlM_insertRow_eq_ok_iff {drafts : List Draft} {dated : List (Draft × Option Instant)}
    (h : Dated drafts dated) {rows rows' : List (Row kind)} :
    dated.foldlM (fun rows entry => insertRow rows entry.1 entry.2) rows = .ok rows' ↔
      Gains (some rows) drafts (some rows') := by
  induction h generalizing rows with
  | nil =>
    constructor
    · rintro ⟨⟩
      exact .nothing _
    · rintro ⟨⟩
      rfl
  | @cons d entry drafts dated hentry _ ih =>
    obtain ⟨rfl, hinstant⟩ := hentry
    simp only [List.foldlM_cons, bind_eq_ok_iff, insertRow_eq_ok_iff hinstant, ih]
    constructor
    · rintro ⟨_, ⟨row, hid, hrow, rfl⟩, hrest⟩
      exact .row hid hrow hrest
    · rintro (_ | ⟨hid, hrow, hrest⟩)
      exact ⟨_, ⟨_, hid, hrow, rfl⟩, hrest⟩

/-- Drafts that a table gains have instants and fit. -/
theorem Gains.exists_dated {t t' : Table kind} {drafts : List Draft} (h : Gains t drafts t') :
    (∃ dated, Dated drafts dated) ∧ ∀ d ∈ drafts, d.fits kind = true := by
  induction h with
  | nothing => exact ⟨⟨[], .nil⟩, by simp⟩
  | row _ hrow _ ih =>
    obtain ⟨⟨dated, hdated⟩, hfits⟩ := ih
    exact ⟨⟨(_, _) :: dated, .cons ⟨rfl, hrow.createdAt⟩ hdated⟩,
      List.forall_mem_cons.mpr ⟨hrow.fits, hfits⟩⟩

namespace Store

/-- Adding drafts to a table is gaining them, and leaves the other tables alone. -/
theorem insertAll_eq_ok_iff {s s' : Store} {drafts : List Draft} (hne : drafts ≠ []) :
    s.insertAll kind drafts = .ok s' ↔
      ∃ t, Gains (s.table kind) drafts t ∧ s' = s.withTable kind t := by
  simp only [insertAll, bind_eq_ok_iff, check_eq_ok_iff, rows_eq_ok_iff, mapM_dated_eq_ok_iff]
  simp only [pure, Except.pure, Except.ok.injEq]
  constructor
  · rintro ⟨dated, hdated, rows, hrows, -, rows', hrows', rfl⟩
    exact ⟨some rows', hrows ▸ (foldlM_insertRow_eq_ok_iff hdated).mp hrows', rfl⟩
  · rintro ⟨t, hgains, rfl⟩
    obtain ⟨⟨dated, hdated⟩, hfits⟩ := hgains.exists_dated
    have hchecked : ¬(drafts.all (·.id.isNone) && !drafts.all (·.fits kind)) = true := by
      simp [List.all_eq_true.mpr hfits]
    rcases hrows : s.table kind with _ | rows
    · rw [hrows] at hgains
      cases hgains
      exact absurd rfl hne
    · rw [hrows] at hgains
      obtain ⟨added, rfl, -⟩ := hgains.exists_append
      exact ⟨dated, hdated, rows, rfl, hchecked, _,
        (foldlM_insertRow_eq_ok_iff hdated).mpr hgains, rfl⟩

/-- Adding drafts in portions is gaining all of them. -/
theorem foldlM_insertAll_eq_ok_iff {portions : List (List Draft)} (hne : [] ∉ portions)
    {s s' : Store} :
    portions.foldlM (fun store portion => store.insertAll kind portion) s = .ok s' ↔
      ∃ t, Gains (s.table kind) portions.flatten t ∧ s' = s.withTable kind t := by
  induction portions generalizing s with
  | nil =>
    simp only [List.foldlM_nil, List.flatten_nil, gains_nil_iff, exists_eq_left, withTable_table,
      pure, Except.pure, Except.ok.injEq, eq_comm]
  | cons portion portions ih =>
    obtain ⟨hportion, hportions⟩ := not_or.mp (mt List.mem_cons.mpr hne)
    simp only [List.foldlM_cons, bind_eq_ok_iff, insertAll_eq_ok_iff (Ne.symm hportion),
      ih hportions, List.flatten_cons, gains_append_iff]
    constructor
    · rintro ⟨_, ⟨t, ht, rfl⟩, u, hu, rfl⟩
      rw [table_withTable_self] at hu
      exact ⟨u, ⟨t, ht, hu⟩, withTable_withTable ..⟩
    · rintro ⟨u, ⟨t, ht, hu⟩, rfl⟩
      refine ⟨_, ⟨t, ht, rfl⟩, u, ?_, (withTable_withTable ..).symm⟩
      rw [table_withTable_self]
      exact hu

end Store

/-! ### Flushing a session -/

namespace Session

variable {x x' : Session}

/-- Flushing the drafts of a kind lets its table gain them. -/
theorem flushKind_eq_ok_iff {s s' : Store} :
    x.flushKind s kind = .ok s' ↔
      ∃ t, Gains (s.table kind) (x.queued kind) t ∧ s' = s.withTable kind t := by
  have hruns : [] ∉ runs (x.queued kind) := List.nil_notMem_splitBy _ _
  rw [flushKind, Store.foldlM_insertAll_eq_ok_iff hruns, runs, List.flatten_splitBy]

/-- Flushing all drafts lets every table gain its own. -/
theorem foldlM_flushKind_eq_ok_iff {s s' : Store} :
    flushOrder.foldlM x.flushKind s = .ok s' ↔
      ∀ kind, Gains (s.table kind) (x.queued kind) (s'.table kind) := by
  simp only [flushOrder, List.foldlM_cons, List.foldlM_nil, bind_eq_ok_iff, flushKind_eq_ok_iff,
    pure, Except.pure, Except.ok.injEq]
  constructor
  · rintro ⟨_, ⟨groups, hgroups, rfl⟩, _, ⟨repositories, hrepositories, rfl⟩, _,
      ⟨users, husers, rfl⟩, rfl⟩ kind
    cases kind
    · exact husers
    · exact hgroups
    · exact hrepositories
  · intro h
    refine ⟨_, ⟨s'.groups, h .group, rfl⟩, _, ⟨s'.repositories, h .repository, rfl⟩, _,
      ⟨s'.users, h .user, rfl⟩, rfl⟩

/-- A flush lets every table gain the drafts that were queued for it, and empties the queue. -/
theorem flush_eq_ok_iff :
    x.flush = .ok x' ↔ x'.queue = [] ∧
      ∀ kind, Gains (x.store.table kind) (x.queued kind) (x'.store.table kind) := by
  simp only [flush, bind_eq_ok_iff, foldlM_flushKind_eq_ok_iff, pure, Except.pure, Except.ok.injEq]
  constructor
  · rintro ⟨s, hs, rfl⟩
    exact ⟨rfl, hs⟩
  · obtain ⟨s, queue⟩ := x'
    rintro ⟨rfl, hs⟩
    exact ⟨s, hs, rfl⟩

theorem queued_of_flush (h : x.flush = .ok x') (kind : EntityKind) : x'.queued kind = [] := by
  rw [queued, (flush_eq_ok_iff.mp h).1]
  rfl

/-- The end of a session lets every table gain the drafts that are still queued for it. -/
theorem commit_eq_ok_iff {s : Store} :
    x.commit = .ok s ↔ ∀ kind, Gains (x.store.table kind) (x.queued kind) (s.table kind) := by
  simp only [commit, bind_eq_ok_iff, flush_eq_ok_iff, pure, Except.pure, Except.ok.injEq]
  constructor
  · rintro ⟨x', ⟨-, hx'⟩, rfl⟩
    exact hx'
  · intro h
    exact ⟨start s, ⟨rfl, h⟩, rfl⟩

theorem commit_start (s : Store) : (start s).commit = .ok s :=
  commit_eq_ok_iff.mpr fun _ => .nothing _

end Session

end ForgeDashboard
