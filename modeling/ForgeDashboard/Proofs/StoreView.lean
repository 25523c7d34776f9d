import ForgeDashboard.Proofs.Coherence
import ForgeDashboard.Proofs.InsertionOrder

/-!
# The dashboard of a store

If all sources answer in time, a dashboard shows what the tables of the store hold: of each kind the
number of rows with the noun that goes with it, and the latest row; and of the latest repository the
user who owns it.  What a missing table would tell is shown as not available.  Whether an owner is
missing or not available hangs on two tables: if there is no repository there is nobody to look for,
and the users are not even asked for.

## Main definitions

* `EntitySection.ShowsRows`, `EntitySection.ShowsMissing` : a section on a table, and on a missing
  one.
* `View.ShowsOwner`, `View.ShowsStore` : a view of a store.
* `Sources.Prompt` : sources that answer in time.

## Main results

* `neg_two_pow_le_id` : no number of a store is below those of 64 bits.
* `view_shows_store` : the view of every store that operations can make.
-/

namespace ForgeDashboard

variable {τ : Type} {kind : EntityKind}

/-! ### What is shown of a table -/

/-- What a section shows of the rows of a table. -/
structure EntitySection.ShowsRows (p : EntitySection) (rows : List (Row kind)) : Prop where
  count : p.count = some rows.length
  countDisplay : p.countDisplay = toString rows.length
  singular : p.label = kind.singular ↔ rows.length = 1
  plural : p.label = kind.plural ↔ rows.length ≠ 1
  empty : p.latestState = .empty ↔ rows.length = 0
  filled : p.latestState = .ok ↔ rows.length ≠ 0
  noLatest : rows.length = 0 → p.latest = none
  /-- The latest row is shown by number and name. -/
  latest : rows.length ≠ 0 → ∃ row l, IsLatest rows (some row) ∧ p.latest = some l ∧
    l.id = row.id ∧ l.name = row.name

/-- What a section shows of a table that is missing. -/
structure EntitySection.ShowsMissing (kind : EntityKind) (p : EntitySection) : Prop where
  count : p.count = none
  countDisplay : p.countDisplay = "n/a"
  label : p.label = kind.plural
  state : p.latestState = .unavailable
  latest : p.latest = none

/-- What a view shows of the owner of the latest repository. -/
structure View.ShowsOwner (v : View) (s : Store) : Prop where
  /-- There is no owner if there is no repository, or no such user. -/
  missing : v.latestRepoUsername = none ↔ ∃ repositories, s.repositories = some repositories ∧
    (repositories = [] ∨ ∃ repository users, IsLatest repositories (some repository) ∧
      s.users = some users ∧ ∀ user ∈ users, user.id ≠ repository.detail)
  /-- The owner is not available if one of the two tables is missing that lead to it. -/
  unavailable : (∀ users ∈ s.users, ∀ user ∈ users, user.name ≠ "n/a") →
    (v.latestRepoUsername = some "n/a" ↔ s.repositories = none ∨
      ∃ repositories, s.repositories = some repositories ∧ repositories ≠ [] ∧ s.users = none)
  /-- Otherwise the owner is shown. -/
  owner : ∀ repositories repository users user, s.repositories = some repositories →
    IsLatest repositories (some repository) → s.users = some users → user ∈ users →
    user.id = repository.detail → v.latestRepoUsername = some user.name

/-- What a view shows of a store. -/
structure View.ShowsStore (v : View) (s : Store) : Prop where
  present : ∀ kind rows, s.table kind = some rows → (v.entitySection kind).ShowsRows rows
  missing : ∀ kind, s.table kind = none → (v.entitySection kind).ShowsMissing kind
  owner : v.ShowsOwner s

/-! ### Sections -/

section Sections

variable {ε : Type} {count : Except ε Int} {latest : Except ε (Option LatestEntity)}
  {p : EntitySection}

/-- The section on a table that was counted and looked through. -/
theorem showsRows_of_entitySection {rows : List (Row kind)} (hcount : count = .ok rows.length)
    (hlatest : latest = .ok ((latestRow rows).map Row.entity))
    (h : entitySection kind count latest = .ok p) : p.ShowsRows rows := by
  subst hcount hlatest
  obtain ⟨-, hcount, hdisplay, -, -, hpart⟩ := entitySection_eq_ok_iff.mp h
  have hcoherent := coherent_of_entitySection h
  have hone : p.count = some 1 ↔ rows.length = 1 := by
    rw [hcount]
    simp [answer?]
  have hsingular := hcoherent.singular
  have hplural := hcoherent.plural
  rw [hone] at hsingular
  rw [ne_eq, hone] at hplural
  have hfound := isLatest_latestRow rows
  rcases hrow : latestRow rows with _ | row
  · rw [hrow] at hfound hpart
    obtain rfl : rows = [] := hfound
    obtain ⟨hstate, hlatest⟩ := Prod.mk.inj (Except.ok.inj hpart)
    exact ⟨hcount, hdisplay, hsingular, hplural, by simp [← hstate], by simp [← hstate],
      fun _ => hlatest.symm, fun hne => absurd rfl hne⟩
  · rw [hrow] at hfound hpart
    have hne : rows.length ≠ 0 := List.length_pos_of_mem hfound.1 |>.ne'
    obtain ⟨hstate, hlatest⟩ := Prod.mk.inj (Except.ok.inj hpart)
    exact ⟨hcount, hdisplay, hsingular, hplural, by simp [← hstate, hne], by simp [← hstate, hne],
      fun hzero => absurd hzero hne, fun _ => ⟨row, _, hfound, hlatest.symm, rfl, rfl⟩⟩

/-- The section on a table that could neither be counted nor looked through. -/
theorem showsMissing_of_entitySection {e f : ε} (hcount : count = .error e)
    (hlatest : latest = .error f) (h : entitySection kind count latest = .ok p) :
    p.ShowsMissing kind := by
  subst hcount hlatest
  obtain ⟨-, hcount, hdisplay, hlabel, -, hpart⟩ := entitySection_eq_ok_iff.mp h
  obtain ⟨hstate, hlatest⟩ := Prod.mk.inj (Except.ok.inj hpart)
  exact ⟨hcount, hdisplay, (EntityKind.label_eq_ok_iff.mp hlabel).2, hstate.symm, hlatest.symm⟩

end Sections

/-! ### Owners -/

/-- What is shown for the owner of the latest repository of a store. -/
def Store.shownOwner (s : Store) : Option String :=
  match s.repositories.map latestRow, s.users with
  | none, _ => some notAvailable
  | some none, _ => none
  | some (some _), none => some notAvailable
  | some (some repository), some users => (findRow users repository.detail).map (·.name)

/-- That is what a view of the store shows. -/
theorem showsOwner_of_eq {s : Store} {v : View} (h : v.latestRepoUsername = s.shownOwner)
    (husers : ∀ rows ∈ s.users, DistinctIds rows)
    (hrepositories : ∀ rows ∈ s.repositories, DistinctIds rows) : v.ShowsOwner s := by
  unfold Store.shownOwner at h
  rcases hr : s.repositories with _ | repositories
  · simp only [hr, Option.map_none] at h
    exact ⟨by simp [h, hr], by simp [h, hr, notAvailable], by simp [hr]⟩
  have hunique {row : Row .repository} :
      IsLatest repositories (some row) ↔ latestRow repositories = some row :=
    (latestRow_eq_iff (hrepositories repositories hr)).symm
  have hfound := isLatest_latestRow repositories
  rcases hlatest : latestRow repositories with _ | repository
  · rw [hlatest] at hfound
    obtain rfl : repositories = [] := hfound
    simp only [hr, Option.map_some, hlatest] at h
    refine ⟨by simp [h, hr], by simp [h, hr], ?_⟩
    rintro _ row _ user hr' hrow
    obtain rfl : [] = _ := Option.some.inj (hr.symm.trans hr')
    exact absurd hrow.1 List.not_mem_nil
  rw [hlatest] at hfound
  have hne : repositories ≠ [] := List.ne_nil_of_mem hfound.1
  rcases hu : s.users with _ | users
  · simp only [hr, hu, Option.map_some, hlatest] at h
    exact ⟨by simp [h, hr, hu, hne], by simp [h, hr, hu, hne, notAvailable], by simp [hu]⟩
  simp only [hr, hu, Option.map_some, hlatest] at h
  have hdistinct : DistinctIds users := husers users hu
  constructor
  · rw [h]
    simp [hr, hu, hne, hunique, hlatest, findRow_eq_none_iff]
  · intro hnames
    refine iff_of_false ?_ (by simp [hr, hu])
    rw [h, Option.map_eq_some_iff]
    rintro ⟨user, huser, hname⟩
    exact hnames users hu user (mem_of_findRow huser).1 hname
  · rintro _ row _ user hr' hrow hu' hmem hid
    obtain rfl : repositories = _ := Option.some.inj (hr.symm.trans hr')
    obtain rfl : users = _ := Option.some.inj (hu.symm.trans hu')
    obtain rfl : repository = row := Option.some.inj (hlatest.symm.trans (hunique.mp hrow))
    rw [h, (findRow_eq_some_iff hdistinct).mpr ⟨hmem, hid⟩, Option.map_some]

/-- The text for the owner of a store is its name. -/
theorem ownerText_nameValue {ε : Type} (name : Option String) :
    ownerText (.ok (Access.nameValue name) : Except ε Value) = .ok name := by
  rcases name with _ | name <;> rfl

/-! ### Missing tables -/

section Run

variable [Zero τ] [Add τ] [Sub τ] [LT τ] [DecidableLT τ] [LE τ] [DecidableLE τ]
  {sources : Sources τ} {host : HostReport} {components : List Component} {start limit : τ}
  {v : View}

section Missing

omit [Sub τ] in
/-- A source that reads the store fails if its query does, be it in time or late. -/
theorem outcome_of_query_error {α : Type} {s : Source τ α} {name : SourceName} {f : Fault}
    (h : s.behaviour = .ofQuery name (.error f)) : s.outcome start limit = .failed := by
  rw [Source.outcome_eq_failed_iff]
  by_cases hf : f.kind.isDatabase = true
  · refine .stated ⟨name.text, .fault f⟩ ?_
    rw [h]
    exact if_pos hf
  · refine .raised f ?_
    rw [h]
    exact if_neg hf

/-- A query that fails on a store fails for everyone who asks. -/
theorem Access.exists_ask_error {α : Type} (a : Access) (query : Store → Except Fault α) {f : Fault}
    (h : query a.store = .error f) : ∃ g, a.ask query = .error g := by
  unfold ask
  split
  · exact ⟨_, rfl⟩
  · exact ⟨f, h⟩

variable {a : Access} (hsources : sources.Integrates a host components)
  (htable : a.store.table kind = none)

include hsources htable

omit [Sub τ] in
theorem count_outcome_of_missing : (sources.count kind).outcome start limit = .failed := by
  have hquery : a.store.count kind = .error (.noSuchTable kind.table) := by
    rw [Store.count, Store.rows, htable]
    rfl
  obtain ⟨g, hg⟩ := a.exists_ask_error (·.count kind) hquery
  exact outcome_of_query_error ((hsources.count kind).trans (congrArg (Behaviour.ofQuery _) hg))

omit [Sub τ] in
theorem latest_outcome_of_missing : (sources.latest kind).outcome start limit = .failed := by
  have hquery : Access.latestEntity a.store kind = .error (.noSuchTable kind.table) := by
    rw [Access.latestEntity, Store.latest, Store.rows, htable]
    rfl
  obtain ⟨g, hg⟩ := a.exists_ask_error (Access.latestEntity · kind) hquery
  exact outcome_of_query_error ((hsources.latest kind).trans (congrArg (Behaviour.ofQuery _) hg))

/-- A view shows that a table is missing, in whatever time the sources answer. -/
theorem showsMissing_of_view (hview : (runSources sources start limit).view = .ok v) :
    (v.entitySection kind).ShowsMissing kind := by
  rw [view_eq_outcomeAnswers_view] at hview
  have hcount : (sources.count kind).outcome start limit = .failed :=
    count_outcome_of_missing hsources htable
  have hlatest : (sources.latest kind).outcome start limit = .failed :=
    latest_outcome_of_missing hsources htable
  exact showsMissing_of_entitySection (congrArg SourceOutcome.answer hcount)
    (congrArg SourceOutcome.answer hlatest) ((Answers.view_eq_ok_iff.mp hview).1 kind)

end Missing

/-! ### Sources that answer in time -/

/-- The sources that read a store act before the deadline. -/
structure Sources.Prompt (sources : Sources τ) (start limit : τ) : Prop where
  count : ∀ kind, (sources.count kind).InTime start limit
  latest : ∀ kind, (sources.latest kind).InTime start limit
  owner : ∀ e, (sources.latest .repository).Delivers start limit (some e) →
    (sources.owner e.id).InTime (sources.ownerStart start) (sources.ownerLimit start limit)

omit [Sub τ] in
/-- The outcome of a source that answers in time shows in its answer. -/
theorem outcome_of_inTime {α : Type} {s : Source τ α} {result : Except (Unavailable τ) α}
    (h : s.InTime start limit) (hresult : s.behaviour = .answers result) :
    s.outcome start limit = resultOutcome result := by
  rw [Source.outcome, if_pos h, hresult]

variable {s : Store} (hsources : sources.Integrates s.access host components)
  (hprompt : sources.Prompt start limit)

include hsources hprompt

theorem count_outcome_of_table {rows : List (Row kind)} (h : s.table kind = some rows) :
    (sources.count kind).outcome start limit = .delivered (rows.length : Int) :=
  outcome_of_inTime (hprompt.count kind) ((hsources.count kind).trans (Store.count_of_table h))

theorem latest_outcome_of_table {rows : List (Row kind)} (h : s.table kind = some rows) :
    (sources.latest kind).outcome start limit =
      .delivered ((latestRow rows).map Row.entity) :=
  outcome_of_inTime (hprompt.latest kind) ((hsources.latest kind).trans (Store.latest_of_table h))

/-- The owner that a view of a store shows, if the number of the latest repository is one of 64
bits. -/
theorem latestRepoUsername_eq
    (hfits : ∀ rows ∈ s.repositories, ∀ row ∈ rows, fitsColumn row.id = true)
    (hdistinct : ∀ rows ∈ s.repositories, DistinctIds rows)
    (hview : (runSources sources start limit).view = .ok v) :
    v.latestRepoUsername = s.shownOwner := by
  rw [view_eq_outcomeAnswers_view] at hview
  have howner : ownerText (ownerAnswer ((sources.latest .repository).outcome start limit)
      (sources.outcome start limit .owner)) = .ok v.latestRepoUsername := ownerText_eq hview
  unfold Store.shownOwner
  rcases hr : s.repositories with _ | repositories
  · have htable : s.table .repository = none := hr
    have hfailed : (sources.latest .repository).outcome start limit = .failed :=
      latest_outcome_of_missing hsources htable
    simp only [Sources.outcome, hfailed] at howner
    exact (Except.ok.inj howner).symm
  have htable : s.table .repository = some repositories := hr
  have hdelivered := latest_outcome_of_table hsources hprompt htable
  have hfound := isLatest_latestRow repositories
  rcases hlatest : latestRow repositories with _ | repository
  · simp only [Sources.outcome, hdelivered, hlatest, Option.map_none] at howner
    simp only [Option.map_some, hlatest]
    exact (Except.ok.inj howner).symm
  rw [hlatest] at hfound
  have hfind : findRow repositories repository.id = some repository :=
    (findRow_eq_some_iff (hdistinct repositories hr)).mpr ⟨hfound.1, rfl⟩
  have hentity : (sources.latest .repository).Delivers start limit (some repository.entity) := by
    rw [← Source.outcome_eq_delivered_iff, hdelivered, hlatest]
    rfl
  have hintime := hprompt.owner _ hentity
  have hbehaviour := hsources.owner repository.id
  simp only [Sources.outcome, hdelivered, hlatest, Option.map_some] at howner
  simp only [Option.map_some, hlatest]
  rcases hu : s.users with _ | users
  · rw [Store.owner_of_missing (.inl hu)] at hbehaviour
    rw [outcome_of_inTime hintime hbehaviour] at howner
    exact (Except.ok.inj howner).symm
  · rw [Store.owner_of_tables (hfits repositories hr repository hfound.1) hu hr] at hbehaviour
    rw [outcome_of_inTime hintime hbehaviour] at howner
    have hrow : ownerRow users repositories repository.id = findRow users repository.detail := by
      rw [ownerRow, hfind]
      rfl
    have htext := (ownerText_nameValue _).symm.trans howner
    rw [hrow] at htext
    exact (Except.ok.inj htext).symm

/-- A view of a store with distinct numbers shows what the store holds. -/
theorem showsStore_of_view
    (hfits : ∀ rows ∈ s.repositories, ∀ row ∈ rows, fitsColumn row.id = true)
    (hdistinct : ∀ kind, ∀ rows ∈ s.table kind, DistinctIds rows)
    (hview : (runSources sources start limit).view = .ok v) : v.ShowsStore s where
  present := by
    intro kind rows htable
    rw [view_eq_outcomeAnswers_view] at hview
    have hcount := count_outcome_of_table hsources hprompt htable
    have hlatest := latest_outcome_of_table hsources hprompt htable
    exact showsRows_of_entitySection (congrArg SourceOutcome.answer hcount)
      (congrArg SourceOutcome.answer hlatest) ((Answers.view_eq_ok_iff.mp hview).1 kind)
  missing := fun _ htable => showsMissing_of_view hsources htable hview
  owner := showsOwner_of_eq
    (latestRepoUsername_eq hsources hprompt hfits (hdistinct .repository) hview)
    (hdistinct .user) (hdistinct .repository)

end Run

/-! ### Numbers of a store -/

/-- A new number is never below those of 64 bits if no number of the table is. -/
theorem neg_two_pow_le_nextId {rows : List (Row kind)} (h : ∀ row ∈ rows, -2 ^ 63 ≤ row.id) :
    -2 ^ 63 ≤ nextId rows := by
  rcases rows with _ | ⟨row, rows⟩
  · show (-2 ^ 63 : Int) ≤ 1
    decide
  · exact (h row List.mem_cons_self).trans (lt_nextId List.mem_cons_self).le

theorem rowInvariant_neg_two_pow_le :
    RowInvariant (fun _ => True) fun rows : List (Row kind) => ∀ row ∈ rows, -2 ^ 63 ≤ row.id where
  nil := by simp
  add := by
    intro op rows row d _ _ hid hrow hrows
    refine List.forall_mem_append.mpr ⟨hrows, List.forall_mem_singleton.mpr ?_⟩
    rw [hid]
    rcases hd : d.id with _ | n
    · exact neg_two_pow_le_nextId hrows
    · have hfits := hrow.fits
      rw [Draft.fits, hd, Bool.and_eq_true] at hfits
      exact (Store.fitsColumn_iff.mp hfits.1).1
  change := by
    intro id c rows old new d _ hold _ hid _ hrows
    refine List.forall_mem_map.mpr fun row hrow => ?_
    split_ifs
    · rw [hid]
      exact hrows old hold
    · exact hrows row hrow
  delete := fun id hrows row hrow => hrows row (List.mem_filter.mp hrow).1

/-- No number of a store is below those of 64 bits. -/
theorem neg_two_pow_le_id (ops : List Operation) (kind : EntityKind) :
    ∀ rows ∈ (Store.empty.applyAll ops).table kind, ∀ row ∈ rows, -2 ^ 63 ≤ row.id :=
  rowInvariant_neg_two_pow_le.applyAll fun _ _ => trivial

/-! ### Every store -/

section Run

variable [Zero τ] [Add τ] [Sub τ] [LT τ] [DecidableLT τ] [LE τ] [DecidableLE τ]

/-- **A dashboard shows what the store holds.**  Take the store after any operations, whichever of
its tables are missing, and let the sources that read it answer in time.  The numbers of
repositories are to be those of a column of 64 bits, so that the store can look a repository up.
Then there is a view unless the host or a component cannot be shown, and every view shows for each
kind what the table holds, or that it is missing, and the owner of the latest repository. -/
theorem view_shows_store {ops : List Operation} {sources : Sources τ} {host : HostReport}
    {components : List Component} {start limit : τ}
    (hsources : sources.Integrates (Store.empty.applyAll ops).access host components)
    (hprompt : sources.Prompt start limit)
    (hids : ∀ rows ∈ (Store.empty.applyAll ops).repositories, ∀ row ∈ rows, row.id < 2 ^ 63) :
    ((sources.telemetry.InTime start limit → host.Displayable) →
      (sources.versions.InTime start limit → ∀ c ∈ components, c.IsTyped) →
        ∃ v, (runSources sources start limit).view = .ok v) ∧
    ∀ v, (runSources sources start limit).view = .ok v →
      v.ShowsStore (Store.empty.applyAll ops) := by
  constructor
  · exact fun hhost hcomponents => hsources.exists_view hhost hcomponents
  · intro v hview
    refine showsStore_of_view hsources hprompt (fun rows hrows row hrow => ?_)
      (distinctIds_applyAll ops) hview
    exact Store.fitsColumn_iff.mpr
      ⟨neg_two_pow_le_id ops .repository rows hrows row hrow, hids rows hrows row hrow⟩

end Run

/-- The latest of the two repositories that were made at one instant has no owner, and the groups
are missing. -/
theorem mixed_store_shown :
    ∃ v, (runSources (mixedStore.access.sources (plainHost 0).snapshot plainComponents)
        (0 : Int) 5).view = .ok v ∧
      v.ShowsStore mixedStore ∧ v.latestRepoUsername = none ∧ v.groups.countDisplay = "n/a" ∧
      v.users.countDisplay = "2" := by
  have hstore : Store.empty.applyAll mixedClocks = mixedStore := by decide +kernel
  have hsources : (mixedStore.access.sources (plainHost 0).snapshot plainComponents :
      Sources Int).Integrates (Store.empty.applyAll mixedClocks).access (plainHost 0)
        plainComponents := by
    rw [hstore]
    exact integrates_sources _ _ _
  have hprompt : (mixedStore.access.sources (plainHost 0).snapshot plainComponents :
      Sources Int).Prompt 0 5 := by
    have hnow : ¬(5 : Int) ≤ 0 ∧ (0 : Int) + 0 < 0 + 5 := by decide
    have howner : ¬restOf ((0 : Int) + 5) (0 + 0) ≤ 0 ∧
        (0 : Int) + 0 + 0 < 0 + 0 + restOf ((0 : Int) + 5) (0 + 0) := by decide
    exact ⟨fun _ => hnow, fun _ => hnow, fun _ _ => howner⟩
  have hids : ∀ rows ∈ (Store.empty.applyAll mixedClocks).repositories, ∀ row ∈ rows,
      row.id < 2 ^ 63 := by
    rw [hstore]
    rintro _ ⟨⟩
    decide
  obtain ⟨hview, hshown⟩ := view_shows_store hsources hprompt hids
  obtain ⟨v, hv⟩ := hview (fun _ => displayable_plainHost le_rfl) fun _ c hc => by
    cases List.mem_singleton.mp hc
    exact ⟨rfl, rfl, rfl⟩
  have h := hshown v hv
  rw [hstore] at h
  refine ⟨v, hv, h, h.owner.missing.mpr ⟨_, rfl, .inr ⟨⟨2, "ghost", ⟨63839710800000000⟩, 9⟩, _,
    ⟨by simp, ?_⟩, rfl, ?_⟩⟩,
    (h.missing .group rfl).countDisplay, (h.present .user _ rfl).countDisplay⟩
  · simp [Row.NotAfter]
  · simp

end ForgeDashboard
