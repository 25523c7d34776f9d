import ForgeDashboard.Proofs.Degradation
import ForgeDashboard.Proofs.Difference
import ForgeDashboard.Proofs.Placeholder

/-!
# Views of the component versions

The component versions are shown in three ways: as a list at an address of their own, as a list in
the dashboard, and one by one in flat fields of the dashboard.  All three show the same registry:
the lists hold its components, entry by entry, and a flat field holds what a look-up in it finds.
The service keeps the registry that it found out when it started, so all three stay the same while
everything around the service changes.

## Main definitions

* `Component.IsDescribedBy` : a document of a component.
* `Registry.Finds` : what a look-up by name is to find.
* `View.ShowsVersions` : a view that shows a registry.
* `Event`, `Exchange`, `App.exchanges` : what happens to a running service, and what it answers.
* `Exchange.ShowsVersions` : an answer that shows a registry.

## Main results

* `componentViews_eq_ok_iff` : the components that are shown are those of the list.
* `Exchange.showsVersions_respond`, `showsVersions_exchanges` : one answer, and all answers of a
  running service.
* `version_views_agree` : the three views, of one registry and while the service runs.
-/

namespace ForgeDashboard

variable {τ : Type}

/-! ### Components that are shown -/

namespace ComponentView

/-- The component that is shown. -/
def component (w : ComponentView) : Component where
  name := .text w.name
  version := .text w.version
  description := match w.description with
    | some s => .text s
    | none => .null

end ComponentView

/-- A component is shown as it is. -/
theorem componentView_eq_ok_iff {c : Component} {w : ComponentView} :
    componentView c = .ok w ↔ w.component = c := by
  constructor
  · intro h
    obtain ⟨name, version, description⟩ := c
    simp only [componentView] at h
    split at h
    · cases h
      rfl
    · cases h
      rfl
    · cases h
  · rintro rfl
    rcases w with ⟨name, version, _ | description⟩ <;> rfl

/-- The components of a list are shown one after another. -/
theorem componentViews_eq_ok_iff {cs : List Component} {ws : List ComponentView} :
    cs.mapM componentView = .ok ws ↔ ws.map ComponentView.component = cs := by
  induction cs generalizing ws with
  | nil =>
    rw [List.map_eq_nil_iff, List.mapM_nil]
    show Except.ok [] = Except.ok ws ↔ _
    rw [Except.ok.injEq, eq_comm]
  | cons c cs ih =>
    simp only [List.mapM_cons, bind_eq_ok_iff, componentView_eq_ok_iff, ih, List.map_eq_cons_iff]
    constructor
    · rintro ⟨w, hw, others, hothers, h⟩
      cases h
      exact ⟨w, others, rfl, hw, hothers⟩
    · rintro ⟨w, others, rfl, hw, hothers⟩
      exact ⟨w, hw, others, hothers, rfl⟩

/-! ### Components as documents -/

/-- A document of a component says its name, its version and its description, which is null if there
is none, and nothing else. -/
inductive Component.IsDescribedBy : Component → Document → Prop
  | plain {name version : String} :
      IsDescribedBy ⟨.text name, .text version, .null⟩
        (.object [("name", .text name), ("version", .text version), ("description", .null)])
  | described {name version description : String} :
      IsDescribedBy ⟨.text name, .text version, .text description⟩
        (.object [("name", .text name), ("version", .text version),
          ("description", .text description)])

theorem ComponentView.isDescribedBy_document (w : ComponentView) :
    w.component.IsDescribedBy w.document := by
  rcases w with ⟨name, version, _ | description⟩
  · exact .plain
  · exact .described

/-- The documents of a list are those of its components, one by one. -/
theorem forall₂_isDescribedBy {cs : List Component} {ws : List ComponentView}
    (h : ws.map ComponentView.component = cs) :
    List.Forall₂ Component.IsDescribedBy cs (ws.map ComponentView.document) := by
  subst h
  rw [List.forall₂_map_left_iff, List.forall₂_map_right_iff, List.forall₂_same]
  exact fun w _ => w.isDescribedBy_document

/-- Components with texts can be shown. -/
theorem exists_componentViews {cs : List Component} (h : ∀ c ∈ cs, c.IsTyped) :
    ∃ ws : List ComponentView, ws.map ComponentView.component = cs := by
  simp only [← componentViews_eq_ok_iff]
  rw [(componentViews_failsWith cs).exists_ok_iff, componentRefusals_eq_none_iff]
  exact h

/-! ### Look-ups -/

namespace Registry

variable {r : Registry} {name : String}

/-- What a look-up by name is to find: the version of the first component of that name. -/
inductive Finds (r : Registry) (name : String) : Value → Prop
  | first (before : List Component) (c : Component) (after : List Component)
      (hcomponents : r.components = before ++ c :: after) (hname : c.name = .text name)
      (hbefore : ∀ b ∈ before, b.name ≠ .text name) : Finds r name c.version
  | missing (h : ∀ c ∈ r.components, c.name ≠ .text name) : Finds r name (.text "unknown")

theorem isNamed_iff {c : Component} : isNamed name c = true ↔ c.name = .text name := by
  unfold isNamed
  split
  · next s h => simp [h]
  · next h => exact iff_of_false (by simp) (h name)

theorem finds_versionOf (r : Registry) (name : String) : r.Finds name (r.versionOf name) := by
  unfold versionOf
  rcases hfind : r.components.find? (isNamed name) with _ | c
  · refine .missing fun c hc hname => ?_
    exact List.find?_eq_none.mp hfind c hc (isNamed_iff.mpr hname)
  · obtain ⟨hname, before, after, hcomponents, hbefore⟩ :=
      List.find?_eq_some_iff_append.mp hfind
    refine .first before c after hcomponents (isNamed_iff.mp hname) fun b hb hb' => ?_
    simpa [isNamed_iff.mpr hb'] using hbefore b hb

end Registry

/-! ### Views -/

/-- The flat fields that show a version, each with the name of its component. -/
def flatVersions : List (String × String) :=
  [("gitarena_version", "gitarena"), ("python_version", "python"),
    ("database_version", "database"), ("libgit2_version", "libgit2"),
    ("pygit2_version", "pygit2"), ("rustc_version", "python"), ("postgres_version", "database"),
    ("git2_rs_version", "pygit2")]

namespace View

variable {v : View} {registry : Registry}

/-- A view that shows a registry. -/
structure ShowsVersions (v : View) (registry : Registry) : Prop where
  /-- It lists the components of the registry, entry by entry. -/
  list : v.versions.map ComponentView.component = registry.components
  /-- So does its document. -/
  listed : ∃ docs, v.document.field? "versions" = some (.list docs) ∧
    List.Forall₂ Component.IsDescribedBy registry.components docs
  /-- A flat field shows what the look-up of its component finds. -/
  flat : ∀ field ∈ flatVersions, ∃ version, registry.versionOf field.2 = .text version ∧
    registry.Finds field.2 (.text version) ∧
    v.document.field? field.1 = some (.text version)

theorem field?_versions (v : View) :
    v.document.field? "versions" = some (.list (v.versions.map ComponentView.document)) :=
  rfl

theorem field?_flatVersions (v : View) :
    ∀ field ∈ flatVersions, v.document.field? field.1 = some (.text (v.versionOf field.2)) := by
  simp only [flatVersions, List.forall_mem_cons]
  exact ⟨rfl, rfl, rfl, rfl, rfl, rfl, rfl, rfl, by simp⟩

/-- The look-up in the view is that in the registry. -/
theorem versionOf_registry (h : v.versions.map ComponentView.component = registry.components)
    (name : String) : registry.versionOf name = .text (v.versionOf name) := by
  have hfind : registry.components.find? (Registry.isNamed name) =
      (v.versions.find? (·.name == name)).map ComponentView.component := by
    rw [← h, List.find?_map]
    rfl
  rw [Registry.versionOf, versionOf, hfind]
  cases v.versions.find? (·.name == name) <;> rfl

/-- A view shows a registry if it lists its components. -/
theorem showsVersions_of_list
    (h : v.versions.map ComponentView.component = registry.components) :
    v.ShowsVersions registry where
  list := h
  listed := ⟨_, v.field?_versions, forall₂_isDescribedBy h⟩
  flat := by
    intro field hfield
    have hversion := versionOf_registry h field.2
    exact ⟨_, hversion, hversion ▸ registry.finds_versionOf field.2,
      v.field?_flatVersions field hfield⟩

end View

section Run

variable [Zero τ] [Add τ] [Sub τ] [LT τ] [DecidableLT τ] [LE τ] [DecidableLE τ]
  {sources : Sources τ} {start limit : τ} {v : View}

/-- A view lists the components that were delivered, and none if none were. -/
theorem versions_of_view (h : (runSources sources start limit).view = .ok v) :
    (∀ cs, sources.versions.Delivers start limit cs →
      v.versions.map ComponentView.component = cs) ∧
    (sources.versions.Fails start limit → v.versions = []) := by
  rw [view_eq_outcomeAnswers_view] at h
  have hlist : (componentList (sources.versions.outcome start limit).answer).mapM componentView =
      .ok v.versions := (Answers.view_eq_ok_iff.mp h).2.2.1
  rw [componentViews_eq_ok_iff] at hlist
  constructor
  · intro cs hcs
    rw [hlist, Source.outcome_eq_delivered_iff.mpr hcs]
    rfl
  · intro hfails
    rw [Source.outcome_eq_failed_iff.mpr hfails] at hlist
    exact List.map_eq_nil_iff.mp hlist

end Run

/-! ### Components that are found out -/

/-- What is found out about a component has texts, whatever is found out. -/
theorem Inquiry.isTyped_entry {q : Inquiry} (hdescription : isOptionalText q.description = true)
    (hfallback : isOptionalText q.fallback = true) : q.entry.IsTyped := by
  unfold entry
  split
  · exact ⟨rfl, rfl, hdescription⟩
  · exact ⟨rfl, rfl, hfallback⟩

/-- The components that are found out can be shown, if the name of the runtime is a text. -/
theorem Installation.isTyped_of_resolve {i : Installation} {r : Resolution}
    (h : i.resolve = .ok r)
    (hname : ∀ name, i.runtimeName = .ok name → isOptionalText name = true) :
    ∀ c ∈ r.components, c.IsTyped := by
  obtain ⟨name, hread, -, rfl⟩ := i.resolve_eq_ok_iff.mp h
  have htext := hname name hread
  have hengine : isOptionalText (Inquiry.ofEngine i.engine).description = true := by
    rcases i.engine with _ | e <;> rfl
  refine List.forall_mem_map.mpr fun q hq => ?_
  simp only [inquiries, others, List.mem_cons, List.not_mem_nil, or_false] at hq
  rcases hq with rfl | rfl | rfl | rfl | rfl | rfl | rfl | rfl | rfl | rfl
  · exact Inquiry.isTyped_entry rfl rfl
  · exact Inquiry.isTyped_entry htext htext
  · exact Inquiry.isTyped_entry hengine rfl
  all_goals exact Inquiry.isTyped_entry rfl rfl

/-! ### A running service -/

namespace App

variable {app : App} {d : Deployment} {request : Request}

/-- A request for a document is answered with it. -/
theorem respond_of_get (hverb : request.verb = "GET") {endpoint : Endpoint}
    (hendpoint : Endpoint.ofPath? request.path = some endpoint) :
    app.respond d request = (fun doc => ⟨200, some doc⟩) <$> app.document d endpoint := by
  rw [respond, hendpoint]
  dsimp only
  rw [if_pos hverb]
  rcases app.document d endpoint with f | doc
  · rfl
  · show Except.ok (Response.sentTo request ⟨200, some doc⟩) = .ok ⟨200, some doc⟩
    rw [Response.sentTo, if_neg (by rw [hverb]; decide)]

/-- The list at the address of the versions. -/
theorem document_versions {ws : List ComponentView}
    (h : ws.map ComponentView.component = app.registry.components) (d : Deployment) :
    app.document d .versions = .ok (.list (ws.map ComponentView.document)) := by
  rw [document, componentViews_eq_ok_iff.mpr h]
  rfl

end App

/-- What happens to a running service: it gets a request, or the store, the host, the database or
what is installed is no longer the same. -/
inductive Event where
  | request (r : Request)
  | change (access : Access) (host : HostReport) (engine : Engine) (installation : Installation)

/-- A request to a running service, with the host at that moment and the answer. -/
structure Exchange where
  host : HostReport
  request : Request
  answer : Except Fault Response

/-- The requests that a service on a deployment answers while things happen to it. -/
def App.exchanges (app : App) (d : Deployment) : List Event → List Exchange
  | [] => []
  | .request r :: events => ⟨d.host, r, app.respond d r⟩ :: app.exchanges d events
  | .change access host engine installation :: events =>
    app.exchanges { d with
      access := access, host := host, engine := engine, installation := installation } events

/-- An answer that shows a registry, if it is one about versions. -/
structure Exchange.ShowsVersions (x : Exchange) (registry : Registry) : Prop where
  /-- The list of the versions has the components of the registry, entry by entry. -/
  versions : x.request.verb = "GET" → x.request.path = "/admin/versions" →
    ∃ docs, x.answer = .ok ⟨200, some (.list docs)⟩ ∧
      List.Forall₂ Component.IsDescribedBy registry.components docs
  /-- The dashboard shows the registry, unless the host cannot be shown. -/
  dashboard : x.request.verb = "GET" → x.request.path = "/admin" →
    (∃ v : View, x.answer = .ok ⟨200, some v.document⟩ ∧ v.ShowsVersions registry) ∨
      ∃ f, x.host.snapshot.refusal = some f ∧ x.answer = .error f

section Service

variable {app : App} {d : Deployment}

/-- What is known at once is known in time if there is any time. -/
theorem Source.inTime_of_pos {α : Type} (behaviour : Behaviour Binary64 α) {limit : Binary64}
    (h : 0 < limit) : (⟨0, behaviour⟩ : Source Binary64 α).InTime 0 limit := by
  have hzero : (0 : Binary64) + 0 = 0 := by decide +kernel
  refine ⟨Binary64.not_le_of_lt h, ?_⟩
  show (0 : Binary64) + 0 < 0 + limit
  rw [hzero]
  exact Binary64.zero_add_pos h

variable (htyped : ∀ c ∈ app.registry.components, c.IsTyped)

include htyped

/-- The dashboard of a deployment shows the registry that it lists, unless the host cannot be
shown. -/
theorem Deployment.showsVersions_or_refused (hlimit : 0 < d.settings.timeout) :
    (∃ v, (d.dashboard app.registry).view = .ok v ∧ v.ShowsVersions app.registry) ∨
      ∃ f, d.host.snapshot.refusal = some f ∧ (d.dashboard app.registry).view = .error f := by
  have hsources : (d.access.sources d.host.snapshot app.registry.components :
      Sources Binary64).Integrates d.access d.host app.registry.components :=
    integrates_sources _ _ _
  have hview : FailsWith _ (d.dashboard app.registry).view := hsources.view_failsWith
  rw [componentRefusals_eq_none_iff.mpr htyped, ite_self] at hview
  have htelemetry : (d.access.sources d.host.snapshot app.registry.components :
      Sources Binary64).telemetry.InTime 0 d.settings.timeout :=
    Source.inTime_of_pos _ hlimit
  have hversions : (d.access.sources d.host.snapshot app.registry.components :
      Sources Binary64).versions.Delivers 0 d.settings.timeout app.registry.components :=
    ⟨Source.inTime_of_pos _ hlimit, rfl⟩
  have hhost : ((d.host.snapshot.refusal <|> none) : Option Fault) = d.host.snapshot.refusal := by
    cases d.host.snapshot.refusal <;> rfl
  rw [if_pos htelemetry, hhost] at hview
  rcases h : (d.dashboard app.registry).view with f | v
  · exact .inr ⟨f, (hview.eq_error_iff f).mp h, rfl⟩
  · exact .inl ⟨v, rfl, View.showsVersions_of_list ((versions_of_view h).1 _ hversions)⟩

/-- One answer of a service shows its registry. -/
theorem Exchange.showsVersions_respond (hlimit : 0 < d.settings.timeout) (r : Request) :
    (⟨d.host, r, app.respond d r⟩ : Exchange).ShowsVersions app.registry where
  versions := by
    intro hverb hpath
    have hendpoint : Endpoint.ofPath? r.path = some .versions := by
      rw [hpath]
      decide
    obtain ⟨ws, hws⟩ := exists_componentViews htyped
    refine ⟨_, ?_, forall₂_isDescribedBy hws⟩
    show app.respond d r = _
    rw [App.respond_of_get hverb hendpoint, App.document_versions hws]
    rfl
  dashboard := by
    intro hverb hpath
    have hendpoint : Endpoint.ofPath? r.path = some .dashboard := by
      rw [hpath]
      decide
    have hanswer : app.respond d r = (fun doc => ⟨200, some doc⟩) <$> app.document d .dashboard :=
      App.respond_of_get hverb hendpoint
    rcases Deployment.showsVersions_or_refused htyped hlimit with ⟨v, hv, hshows⟩ | ⟨f, hf, hv⟩
    · refine .inl ⟨v, ?_, hshows⟩
      rw [hanswer, App.document, hv]
      rfl
    · refine .inr ⟨f, hf, ?_⟩
      rw [hanswer, App.document, hv]
      rfl

/-- All answers of a service show its registry, whatever happens between them. -/
theorem showsVersions_exchanges (events : List Event) (hlimit : 0 < d.settings.timeout) :
    ∀ x ∈ app.exchanges d events, x.ShowsVersions app.registry := by
  induction events generalizing d with
  | nil => exact fun x hx => absurd hx List.not_mem_nil
  | cons event events ih =>
    cases event with
    | request r =>
      rintro x (_ | ⟨_, hx⟩)
      · exact Exchange.showsVersions_respond htyped hlimit r
      · exact ih hlimit x hx
    | change access host engine installation => exact ih hlimit

end Service

section Agreement

variable [Zero τ] [Add τ] [Sub τ] [LT τ] [DecidableLT τ] [LE τ] [DecidableLE τ]

/-- **All views of the component versions agree and stay the same.**  A view to which the components
of a registry were delivered lists them entry by entry, each with its name, version and description;
the list at the address of the versions is the same, and each flat field shows what a look-up in the
registry finds.  If they were not delivered in time, nothing is listed and all flat fields are
unknown.  A service that has started, with any time for its answers, shows the components that were
found out at the start in its lists and dashboards, whatever is asked and whatever changes in the
meantime; and it starts if its tables can be made and its components can be found out.  The name of
the runtime is to be a text, as it is shown beside a version. -/
theorem version_views_agree :
    (∀ (registry : Registry) (sources : Sources τ) (start limit : τ) (v : View),
      (runSources sources start limit).view = .ok v →
        (sources.versions.Delivers start limit registry.components →
          v.ShowsVersions registry ∧
          ∀ d, ∃ docs, v.document.field? "versions" = some (.list docs) ∧
            App.document ⟨registry⟩ d .versions = .ok (.list docs)) ∧
        (sources.versions.Fails start limit →
          v.versions = [] ∧ v.document.field? "versions" = some (.list []) ∧
          ∀ field ∈ flatVersions, v.document.field? field.1 = some (.text "unknown"))) ∧
    (∀ registry : Registry, (∀ c ∈ registry.components, c.IsTyped) → ∀ d,
      ∃ docs, App.document ⟨registry⟩ d .versions = .ok (.list docs) ∧
        List.Forall₂ Component.IsDescribedBy registry.components docs) ∧
    ∀ d : Deployment, 0 < d.settings.timeout →
      (∀ name, d.installation.runtimeName = .ok name → isOptionalText name = true) →
      (∀ app d', App.start d = .ok (app, d') → ∃ r, d.resolve = .ok r ∧ app = ⟨r.registry⟩ ∧
        ∀ events, ∀ x ∈ app.exchanges d' events, x.ShowsVersions r.registry) ∧
      (d.createFailure = none → ∀ r, d.resolve = .ok r →
        App.start d = .ok (⟨r.registry⟩, d.withTables)) := by
  refine ⟨fun registry sources start limit v hview => ?_, fun registry htyped d => ?_,
    fun d hlimit hname => ⟨?_, ?_⟩⟩
  · obtain ⟨hdelivered, hfailed⟩ := versions_of_view hview
    constructor
    · intro hdelivers
      have hlist := hdelivered _ hdelivers
      exact ⟨View.showsVersions_of_list hlist,
        fun d => ⟨_, v.field?_versions, App.document_versions hlist d⟩⟩
    · intro hfails
      have hnone := hfailed hfails
      refine ⟨hnone, by rw [v.field?_versions, hnone, List.map_nil], fun field hfield => ?_⟩
      rw [v.field?_flatVersions field hfield, View.versionOf, hnone]
      rfl
  · obtain ⟨ws, hws⟩ := exists_componentViews htyped
    exact ⟨_, App.document_versions hws d, forall₂_isDescribedBy hws⟩
  · rintro app d' hstart
    obtain ⟨-, rfl, r, hresolve, rfl⟩ := App.start_eq_ok_iff.mp hstart
    have htyped : ∀ c ∈ r.registry.components, c.IsTyped :=
      Installation.isTyped_of_resolve hresolve hname
    exact ⟨r, hresolve, rfl, fun events => showsVersions_exchanges htyped events hlimit⟩
  · exact fun htables r hr => App.start_eq_ok_iff.mpr ⟨htables, rfl, r, hr, rfl⟩

end Agreement

/-- Two versions of one component, and a component without a description. -/
def twofoldComponents : List Component :=
  [⟨.text "pygit2", .text "1.14.0", .text "bindings"⟩, ⟨.text "python", .text "3.12.1", .null⟩,
    ⟨.text "pygit2", .text "0.28.2", .text "bindings"⟩]

/-- Sources with these components, of which the versions may be late. -/
def twofoldSources (delay : Int) : Sources Int :=
  { lateOwnerSources with versions := ⟨delay, .answers (.ok twofoldComponents)⟩ }

/-- A deployment with an old git library. -/
def datedDeployment : Deployment := deploymentWith (.ok (.text "2.0")) (.ok (.text "0.28")) none

/-- A service is asked for the dashboard and, once everything around it is another, for the
versions. -/
def upgrade : List Event :=
  [.request ⟨"GET", "/admin?tab=1"⟩,
    .change ⟨⟨some [], none, none⟩, none⟩ (plainHost 5) ⟨"mysql", none, .ok (.text "9.0")⟩
      incomplete,
    .request ⟨"get", "/admin/versions"⟩]

/-- Of two versions of one component the first is shown under both of its names, and a service goes
on to list what it was started with. -/
theorem twofold_version_shown :
    (∃ v, (runSources (twofoldSources 1) 0 5).view = .ok v ∧ v.ShowsVersions ⟨twofoldComponents⟩ ∧
      v.document.field? "git2_rs_version" = some (.text "1.14.0") ∧
      v.document.field? "postgres_version" = some (.text "unknown")) ∧
    (∃ v, (runSources (twofoldSources 5) 0 5).view = .ok v ∧ v.versions = []) ∧
    ∃ app d' r x y, App.start datedDeployment = .ok (app, d') ∧ datedDeployment.resolve = .ok r ∧
      r.registry.versionOf "libgit2" = .text "0.28" ∧ app.exchanges d' upgrade = [x, y] ∧
      (∃ v : View, x.answer = .ok ⟨200, some v.document⟩ ∧ v.ShowsVersions r.registry) ∧
      ∃ docs, y.answer = .ok ⟨200, some (.list docs)⟩ ∧
        List.Forall₂ Component.IsDescribedBy r.components docs := by
  have hshown : (runSources (twofoldSources 1) 0 5).view = .ok _ := rfl
  have hlate : (runSources (twofoldSources 5) 0 5).view = .ok _ := rfl
  obtain ⟨hviews, -, hservice⟩ := version_views_agree (τ := Int)
  obtain ⟨hagrees, -⟩ := (hviews ⟨twofoldComponents⟩ _ _ _ _ hshown).1 ⟨by decide, rfl⟩
  obtain ⟨hnone, -⟩ := (hviews ⟨twofoldComponents⟩ _ _ _ _ hlate).2 (.late (by decide))
  refine ⟨⟨_, hshown, hagrees, rfl, rfl⟩, ⟨_, hlate, hnone⟩, ?_⟩
  obtain ⟨hshows, hstarts⟩ := hservice datedDeployment (by decide +kernel)
    (fun name hname => by cases hname; rfl)
  have hresolve : datedDeployment.resolve = .ok _ := rfl
  have hstart := hstarts rfl _ hresolve
  obtain ⟨r, hr, -, hall⟩ := hshows _ _ hstart
  obtain rfl := Except.ok.inj (hresolve.symm.trans hr)
  have hall := hall upgrade
  refine ⟨_, _, _, _, _, hstart, hresolve, rfl, rfl, ?_, ?_⟩
  · rcases (hall _ (.head _)).dashboard (by decide +kernel) (by decide +kernel) with h | ⟨f, hf, -⟩
    · exact h
    · have hhost : (plainHost 0).snapshot.refusal = none :=
        (plainHost 0).refusal_eq_none_iff.mpr (displayable_plainHost le_rfl)
      cases hhost.symm.trans hf
  · exact (hall _ (.tail _ (.head _))).versions (by decide +kernel) (by decide +kernel)

end ForgeDashboard
