import Mathlib.Algebra.Order.Ring.Int
import Mathlib.Data.List.Forall2
import ForgeDashboard.Proofs.Outcome

/-!
# Isolation of the sources

Each part of the view is fed by a few sources.  Two runs whose outcomes agree on the sources that
feed a part show the same in that part, whatever becomes of all other sources: when they answer,
what they answer, and how they fail.

## Main definitions

* `ViewPart`, `ViewPart.content` : the parts of a view, flat fields included.
* `ViewPart.feeds` : the sources that feed a part.

## Main results

* `parts_agree_of_outcomes_agree` : a part of two runs agrees where the outcomes that feed it do.
* `view_eq_of_parts_eq` : the parts make up the whole view.
-/

namespace ForgeDashboard

/-! ### The parts of a view -/

/-- A part of the view. -/
inductive ViewPart where
  | kind (kind : EntityKind)
  | listUrl (kind : EntityKind)
  | count (kind : EntityKind)
  | countDisplay (kind : EntityKind)
  | label (kind : EntityKind)
  | latest (kind : EntityKind)
  | latestState (kind : EntityKind)
  | ownerName
  | system
  | versions
  /-- A flat field of the document, by name. -/
  | flat (field : String)
  deriving DecidableEq

/-- The flat fields of a view, by name. -/
def View.flatFields (v : View) : List (String × Document) :=
  v.entityFields ++ (v.versionFields ++ v.systemFields)

namespace ViewPart

/-- What kind of thing a part shows. -/
abbrev Content : ViewPart → Type
  | kind _ => EntityKind
  | listUrl _ => String
  | count _ => Option Int
  | countDisplay _ => String
  | label _ => String
  | latest _ => Option LatestView
  | latestState _ => LatestState
  | ownerName => Option String
  | system => SystemSection
  | versions => List ComponentView
  | flat _ => Option Document

/-- What a view shows in a part. -/
def content (v : View) : (p : ViewPart) → p.Content
  | kind k => (v.entitySection k).kind
  | listUrl k => (v.entitySection k).listUrl
  | count k => (v.entitySection k).count
  | countDisplay k => (v.entitySection k).countDisplay
  | label k => (v.entitySection k).label
  | latest k => (v.entitySection k).latest
  | latestState k => (v.entitySection k).latestState
  | ownerName => v.latestRepoUsername
  | system => v.system
  | versions => v.versions
  | flat field => v.flatFields.lookup field

/-- The source that feeds each flat field. -/
def flatFeeds : List (String × SourceName) :=
  [("users_count", .count .user), ("latest_user", .latest .user),
    ("groups_count", .count .group), ("latest_group", .latest .group),
    ("repos_count", .count .repository), ("latest_repo", .latest .repository)] ++
    View.versionFieldNames.map (fun entry => (entry.1, .versions)) ++
    ["os", "version", "architecture", "uptime", "memory_available", "memory_total", "pid"].map
      (fun field => (field, .telemetry))

/-- The sources that feed a part.  Names and addresses of the kinds are fed by none. -/
def feeds : ViewPart → List SourceName
  | kind _ | listUrl _ => []
  | count k | countDisplay k | label k => [.count k]
  | latest k | latestState k => [.latest k]
  | ownerName => [.latest .repository, .owner]
  | system => [.telemetry]
  | versions => [.versions]
  | flat field => (flatFeeds.lookup field).toList

end ViewPart

/-! ### Agreement of flat fields -/

/-- Two lists of fields with the same names agree on a field if their entries under its name do. -/
theorem lookup_eq_of_forall₂ {β : Type} {field : String} {l₁ l₂ : List (String × β)}
    (h : List.Forall₂ (fun a b => a.1 = b.1 ∧ (field = a.1 → a.2 = b.2)) l₁ l₂) :
    l₁.lookup field = l₂.lookup field := by
  induction h with
  | nil => rfl
  | @cons a b _ _ hab _ ih =>
    obtain ⟨name, x⟩ := a
    obtain ⟨_, y⟩ := b
    obtain ⟨rfl, hxy⟩ := hab
    by_cases hfield : field = name
    · have hxy : x = y := hxy hfield
      simp [hfield, hxy]
    · simp [List.lookup_cons, beq_eq_false_iff_ne.mpr hfield, ih]

/-- Two views agree on a flat field if they agree on what it is copied from. -/
theorem lookup_flatFields_eq {v₁ v₂ : View} {field : String}
    (hcount : ∀ k, .count k ∈ (ViewPart.flat field).feeds →
      (v₁.entitySection k).countDisplay = (v₂.entitySection k).countDisplay)
    (hlatest : ∀ k, .latest k ∈ (ViewPart.flat field).feeds →
      (v₁.entitySection k).latest = (v₂.entitySection k).latest)
    (hsystem : .telemetry ∈ (ViewPart.flat field).feeds → v₁.system = v₂.system)
    (hversions : .versions ∈ (ViewPart.flat field).feeds → v₁.versions = v₂.versions) :
    v₁.flatFields.lookup field = v₂.flatFields.lookup field := by
  refine lookup_eq_of_forall₂ (List.rel_append ?_ (List.rel_append ?_ ?_))
  · refine .cons ⟨rfl, ?_⟩ (.cons ⟨rfl, ?_⟩ (.cons ⟨rfl, ?_⟩ (.cons ⟨rfl, ?_⟩
      (.cons ⟨rfl, ?_⟩ (.cons ⟨rfl, ?_⟩ .nil)))))
    · rintro (rfl : field = "users_count")
      exact congrArg Document.text (hcount .user (by decide))
    · rintro (rfl : field = "latest_user")
      exact congrArg (Document.ofOption (LatestView.brief "username")) (hlatest .user (by decide))
    · rintro (rfl : field = "groups_count")
      exact congrArg Document.text (hcount .group (by decide))
    · rintro (rfl : field = "latest_group")
      exact congrArg (Document.ofOption (LatestView.brief "name")) (hlatest .group (by decide))
    · rintro (rfl : field = "repos_count")
      exact congrArg Document.text (hcount .repository (by decide))
    · rintro (rfl : field = "latest_repo")
      exact congrArg (Document.ofOption (LatestView.brief "name")) (hlatest .repository (by decide))
  · have hfed : ∀ entry ∈ View.versionFieldNames,
        SourceName.versions ∈ (ViewPart.flat entry.1).feeds := by decide
    refine List.forall₂_map_left_iff.mpr (List.forall₂_map_right_iff.mpr
      (List.forall₂_same.mpr fun entry hentry => ⟨rfl, ?_⟩))
    rintro rfl
    have hversions := hversions (hfed entry hentry)
    simp only [View.versionOf, hversions]
  · refine .cons ⟨rfl, ?_⟩ (.cons ⟨rfl, ?_⟩ (.cons ⟨rfl, ?_⟩ (.cons ⟨rfl, ?_⟩
      (.cons ⟨rfl, ?_⟩ (.cons ⟨rfl, ?_⟩ (.cons ⟨rfl, ?_⟩ .nil))))))
    all_goals
      intro hfield
      dsimp only at hfield
      subst hfield
      rw [hsystem (by decide)]

/-! ### Agreement of two runs -/

section Outcomes

variable {o₁ o₂ : (name : SourceName) → SourceOutcome name.Answer} {v₁ v₂ : View}
  (h₁ : (outcomeAnswers o₁).view = .ok v₁) (h₂ : (outcomeAnswers o₂).view = .ok v₂)

include h₁ h₂

theorem count_parts_eq {k : EntityKind} (h : o₁ (.count k) = o₂ (.count k)) :
    (v₁.entitySection k).count = (v₂.entitySection k).count ∧
      (v₁.entitySection k).countDisplay = (v₂.entitySection k).countDisplay ∧
      (v₁.entitySection k).label = (v₂.entitySection k).label := by
  obtain ⟨-, hc₁, hd₁, hl₁, -, -⟩ :=
    entitySection_eq_ok_iff.mp ((Answers.view_eq_ok_iff.mp h₁).1 k)
  obtain ⟨-, hc₂, hd₂, hl₂, -, -⟩ :=
    entitySection_eq_ok_iff.mp ((Answers.view_eq_ok_iff.mp h₂).1 k)
  have hanswer : (outcomeAnswers o₁).count k = (outcomeAnswers o₂).count k :=
    congrArg SourceOutcome.answer h
  rw [hanswer] at hc₁ hd₁ hl₁
  exact ⟨hc₁.trans hc₂.symm, hd₁.trans hd₂.symm, Except.ok.inj (hl₁.symm.trans hl₂)⟩

theorem latest_parts_eq {k : EntityKind} (h : o₁ (.latest k) = o₂ (.latest k)) :
    (v₁.entitySection k).latest = (v₂.entitySection k).latest ∧
      (v₁.entitySection k).latestState = (v₂.entitySection k).latestState := by
  obtain ⟨-, -, -, -, -, hp₁⟩ :=
    entitySection_eq_ok_iff.mp ((Answers.view_eq_ok_iff.mp h₁).1 k)
  obtain ⟨-, -, -, -, -, hp₂⟩ :=
    entitySection_eq_ok_iff.mp ((Answers.view_eq_ok_iff.mp h₂).1 k)
  have hanswer : (outcomeAnswers o₁).latest k = (outcomeAnswers o₂).latest k :=
    congrArg SourceOutcome.answer h
  rw [hanswer] at hp₁
  obtain ⟨hstate, hlatest⟩ := Prod.mk.inj (Except.ok.inj (hp₁.symm.trans hp₂))
  exact ⟨hlatest, hstate⟩

theorem fixed_parts_eq (k : EntityKind) :
    (v₁.entitySection k).kind = (v₂.entitySection k).kind ∧
      (v₁.entitySection k).listUrl = (v₂.entitySection k).listUrl := by
  obtain ⟨hk₁, -, -, -, hu₁, -⟩ :=
    entitySection_eq_ok_iff.mp ((Answers.view_eq_ok_iff.mp h₁).1 k)
  obtain ⟨hk₂, -, -, -, hu₂, -⟩ :=
    entitySection_eq_ok_iff.mp ((Answers.view_eq_ok_iff.mp h₂).1 k)
  exact ⟨hk₁.trans hk₂.symm, hu₁.trans hu₂.symm⟩

theorem system_eq (h : o₁ .telemetry = o₂ .telemetry) : v₁.system = v₂.system := by
  have hs₁ := (Answers.view_eq_ok_iff.mp h₁).2.1
  have hs₂ := (Answers.view_eq_ok_iff.mp h₂).2.1
  have hanswer : (outcomeAnswers o₁).snapshot = (outcomeAnswers o₂).snapshot :=
    congrArg SourceOutcome.answer h
  rw [hanswer] at hs₁
  exact Except.ok.inj (hs₁.symm.trans hs₂)

theorem versions_eq (h : o₁ .versions = o₂ .versions) : v₁.versions = v₂.versions := by
  have hv₁ := (Answers.view_eq_ok_iff.mp h₁).2.2.1
  have hv₂ := (Answers.view_eq_ok_iff.mp h₂).2.2.1
  have hanswer : (outcomeAnswers o₁).components = (outcomeAnswers o₂).components :=
    congrArg SourceOutcome.answer h
  rw [hanswer] at hv₁
  exact Except.ok.inj (hv₁.symm.trans hv₂)

theorem ownerName_eq (hlatest : o₁ (.latest .repository) = o₂ (.latest .repository))
    (howner : o₁ .owner = o₂ .owner) : v₁.latestRepoUsername = v₂.latestRepoUsername := by
  have ho₁ := (Answers.view_eq_ok_iff.mp h₁).2.2.2
  have ho₂ := (Answers.view_eq_ok_iff.mp h₂).2.2.2
  have hanswer : (outcomeAnswers o₁).owner = (outcomeAnswers o₂).owner :=
    congrArg₂ ownerAnswer hlatest howner
  rw [hanswer] at ho₁
  exact Except.ok.inj (ho₁.symm.trans ho₂)

/-- Views agree in a part if the outcomes that feed the part agree. -/
theorem content_eq_of_outcomes_eq (p : ViewPart) (h : ∀ name ∈ p.feeds, o₁ name = o₂ name) :
    p.content v₁ = p.content v₂ := by
  cases p with
  | kind k => exact (fixed_parts_eq h₁ h₂ k).1
  | listUrl k => exact (fixed_parts_eq h₁ h₂ k).2
  | count k => exact (count_parts_eq h₁ h₂ (h _ (List.mem_singleton_self _))).1
  | countDisplay k => exact (count_parts_eq h₁ h₂ (h _ (List.mem_singleton_self _))).2.1
  | label k => exact (count_parts_eq h₁ h₂ (h _ (List.mem_singleton_self _))).2.2
  | latest k => exact (latest_parts_eq h₁ h₂ (h _ (List.mem_singleton_self _))).1
  | latestState k => exact (latest_parts_eq h₁ h₂ (h _ (List.mem_singleton_self _))).2
  | ownerName => exact ownerName_eq h₁ h₂ (h _ (by decide)) (h _ (by decide))
  | system => exact system_eq h₁ h₂ (h _ (List.mem_singleton_self _))
  | versions => exact versions_eq h₁ h₂ (h _ (List.mem_singleton_self _))
  | flat field =>
    exact lookup_flatFields_eq (fun k hk => (count_parts_eq h₁ h₂ (h _ hk)).2.1)
      (fun k hk => (latest_parts_eq h₁ h₂ (h _ hk)).1) (fun hk => system_eq h₁ h₂ (h _ hk))
      (fun hk => versions_eq h₁ h₂ (h _ hk))

end Outcomes

/-- The parts make up the whole view. -/
theorem view_eq_of_parts_eq {v₁ v₂ : View}
    (h : ∀ p : ViewPart, p.content v₁ = p.content v₂) : v₁ = v₂ := by
  have hsection (k : EntityKind) : v₁.entitySection k = v₂.entitySection k := by
    have hkind := h (.kind k)
    have hurl := h (.listUrl k)
    have hcount := h (.count k)
    have hdisplay := h (.countDisplay k)
    have hlabel := h (.label k)
    have hlatest := h (.latest k)
    have hstate := h (.latestState k)
    simp only [ViewPart.content] at hkind hurl hcount hdisplay hlabel hlatest hstate
    generalize v₁.entitySection k = s₁ at *
    generalize v₂.entitySection k = s₂ at *
    cases s₁
    cases s₂
    simp_all only
  obtain ⟨u₁, g₁, r₁, n₁, s₁, c₁⟩ := v₁
  obtain ⟨u₂, g₂, r₂, n₂, s₂, c₂⟩ := v₂
  have husers : u₁ = u₂ := hsection .user
  have hgroups : g₁ = g₂ := hsection .group
  have hrepos : r₁ = r₂ := hsection .repository
  have howner : n₁ = n₂ := h .ownerName
  have hsystem : s₁ = s₂ := h .system
  have hversions : c₁ = c₂ := h .versions
  rw [husers, hgroups, hrepos, howner, hsystem, hversions]

variable {τ : Type} [Zero τ] [Add τ] [Sub τ] [LT τ] [DecidableLT τ] [LE τ] [DecidableLE τ]

/-- Two runs that give views agree in every part whose sources have the same outcomes in both,
whatever becomes of the other sources; if all sources have the same outcomes, the views are the
same.  Limits and delays matter only through the outcomes. -/
theorem parts_agree_of_outcomes_agree {sources₁ sources₂ : Sources τ}
    {start₁ start₂ limit₁ limit₂ : τ} {v₁ v₂ : View}
    (h₁ : (runSources sources₁ start₁ limit₁).view = .ok v₁)
    (h₂ : (runSources sources₂ start₂ limit₂).view = .ok v₂) :
    (∀ p : ViewPart,
      (∀ name ∈ p.feeds,
        sources₁.outcome start₁ limit₁ name = sources₂.outcome start₂ limit₂ name) →
      p.content v₁ = p.content v₂) ∧
    ((∀ name, sources₁.outcome start₁ limit₁ name = sources₂.outcome start₂ limit₂ name) →
      v₁ = v₂) := by
  rw [view_eq_outcomeAnswers_view] at h₁ h₂
  refine ⟨fun p h => content_eq_of_outcomes_eq h₁ h₂ p h, fun h => ?_⟩
  exact view_eq_of_parts_eq fun p => content_eq_of_outcomes_eq h₁ h₂ p fun name _ => h name

/-- Sources of which only the host cannot be asked, on a clock of whole seconds. -/
def steadySources : Sources Int where
  count := fun _ => ⟨1, .answers (.ok 5)⟩
  latest := fun kind => ⟨1, .answers (.ok (some ⟨kind, 11, .text "arena"⟩))⟩
  owner := fun _ => ⟨1, .answers (.ok (.text "alice"))⟩
  telemetry := ⟨1, .fails (.raised .runtime none)⟩
  versions := ⟨1, .answers (.ok [⟨.text "gitarena", .text "0.1.0", .null⟩])⟩

/-- The same sources with counts that come too late, a failing component list, and an owner that
takes longer. -/
def hinderedSources : Sources Int :=
  { steadySources with
    count := fun _ => ⟨9, .answers (.ok 5)⟩
    owner := fun _ => ⟨2, .answers (.ok (.text "alice"))⟩
    versions := ⟨0, .fails (.raised .operational (some "gone"))⟩ }

theorem owner_shown_beside_late_counts :
    ∃ v₁ v₂, (runSources steadySources 0 5).view = .ok v₁ ∧
      (runSources hinderedSources 0 4).view = .ok v₂ ∧
      v₁.latestRepoUsername = v₂.latestRepoUsername := by
  have h₁ : (runSources steadySources 0 5).view = .ok _ := rfl
  have h₂ : (runSources hinderedSources 0 4).view = .ok _ := rfl
  refine ⟨_, _, h₁, h₂, (parts_agree_of_outcomes_agree h₁ h₂).1 .ownerName ?_⟩
  intro name hname
  rcases List.mem_cons.mp hname with rfl | hname
  · rfl
  · rw [List.mem_singleton.mp hname]
    rfl

end ForgeDashboard
