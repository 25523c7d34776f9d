import ForgeDashboard.Dashboard.Assemble

/-!
# What a view tells about the answers

A view that could be built says what each of its parts was built from.  The sections never look at
the reason of a failed answer, so the view stays the same if all reasons are forgotten.

## Main results

* `entitySection_eq_ok_iff`, `Answers.view_eq_ok_iff` : the parts of a section and of a view.
* `Answers.view_forget` : the reasons of failures do not matter.
-/

namespace ForgeDashboard

variable {ε α β : Type}

/-- A sequence of two steps gives a value if both steps do. -/
theorem bind_eq_ok_iff {x : Except ε α} {next : α → Except ε β} {b : β} :
    x >>= next = .ok b ↔ ∃ a, x = .ok a ∧ next a = .ok b := by
  rcases x with e | a
  · simp [bind, Except.bind]
  · simp [bind, Except.bind]

theorem mapError_eq_ok_iff {ε' : Type} {x : Except ε α} {f : ε → ε'} {a : α} :
    x.mapError f = .ok a ↔ x = .ok a := by
  rcases x with e | b
  · exact iff_of_false (fun h => by cases h) (fun h => by cases h)
  · constructor
    · rintro ⟨⟩
      rfl
    · rintro ⟨⟩
      rfl

theorem eq_ok_of_toOption {x : Except ε α} {a : α} (h : x.toOption = some a) : x = .ok a := by
  rcases x with e | b
  · cases h
  · exact congrArg Except.ok (Option.some.inj h)

/-- Of what is made from the members of a list, that which bears the name of a member is made from
that member, if no two members have the same name. -/
theorem filter_filterMap_eq_toList {κ : Type} [BEq κ] [LawfulBEq κ] {name : α → κ}
    {nameOf : β → κ} {make : α → Option β} (hmake : ∀ a b, make a = some b → nameOf b = name a)
    {as : List α} (hnodup : (as.map name).Nodup) {a : α} (ha : a ∈ as) :
    (as.filterMap make).filter (nameOf · == name a) = (make a).toList := by
  induction as with
  | nil => cases ha
  | cons a' as ih =>
    obtain ⟨hnew, hrest⟩ := List.nodup_cons.mp hnodup
    have hcons : (a' :: as).filterMap make = (make a').toList ++ as.filterMap make := by
      rcases hb : make a' with _ | b <;> simp [hb]
    rw [hcons, List.filter_append]
    rcases List.mem_cons.mp ha with rfl | hmem
    · have hown : (make a).toList.filter (nameOf · == name a) = (make a).toList := by
        refine List.filter_eq_self.mpr fun b hb => ?_
        rw [hmake a b (Option.mem_toList.mp hb), beq_self_eq_true]
      have hothers : (as.filterMap make).filter (nameOf · == name a) = [] := by
        refine List.filter_eq_nil_iff.mpr fun b hb => ?_
        obtain ⟨c, hc, hcb⟩ := List.mem_filterMap.mp hb
        rw [hmake c b hcb, beq_iff_eq]
        exact fun h => hnew (h ▸ List.mem_map_of_mem hc)
      rw [hown, hothers, List.append_nil]
    · have hother : (make a').toList.filter (nameOf · == name a) = [] := by
        refine List.filter_eq_nil_iff.mpr fun b hb => ?_
        rw [hmake a' b (Option.mem_toList.mp hb), beq_iff_eq]
        exact fun h => hnew (h ▸ List.mem_map_of_mem hmem)
      rw [hother, List.nil_append]
      exact ih hrest hmem

/-! ### The parts of a section -/

/-- What is shown for a count that may be missing. -/
def countText : Option Int → String
  | some n => toString n
  | none => notAvailable

/-- The parts of the section of a kind. -/
theorem entitySection_eq_ok_iff {kind : EntityKind} {count : Except ε Int}
    {latest : Except ε (Option LatestEntity)} {s : EntitySection} :
    entitySection kind count latest = .ok s ↔
      s.kind = kind ∧ s.count = answer? count ∧ s.countDisplay = countText (answer? count) ∧
        kind.label (answer? count) = .ok s.label ∧ s.listUrl = kind.listUrl ∧
        latestPart kind latest = .ok (s.latestState, s.latest) := by
  obtain ⟨k, n, display, label, url, l, state⟩ := s
  simp only [entitySection, bind_eq_ok_iff, pure, Except.pure, Except.ok.injEq,
    EntitySection.mk.injEq]
  constructor
  · rintro ⟨⟨st, part⟩, hpart, lab, hlabel, rfl, rfl, rfl, rfl, rfl, rfl, rfl⟩
    exact ⟨rfl, rfl, by cases answer? count <;> rfl, hlabel, rfl, hpart⟩
  · rintro ⟨rfl, rfl, rfl, hlabel, rfl, hpart⟩
    exact ⟨_, hpart, _, hlabel, rfl, rfl, by cases answer? count <;> rfl, rfl, rfl, rfl, rfl⟩

/-! ### The parts of a view -/

/-- The parts of a view. -/
theorem Answers.view_eq_ok_iff {a : Answers ε} {v : View} :
    a.view = .ok v ↔
      (∀ kind, entitySection kind (a.count kind) (a.latest kind) = .ok (v.entitySection kind)) ∧
        systemSection a.snapshot = .ok v.system ∧
        (componentList a.components).mapM componentView = .ok v.versions ∧
        ownerText a.owner = .ok v.latestRepoUsername := by
  obtain ⟨users, groups, repos, owner, system, versions⟩ := v
  simp only [Answers.view, bind_eq_ok_iff, pure, Except.pure, Except.ok.injEq, View.mk.injEq]
  constructor
  · rintro ⟨_, hu, _, hg, _, hr, _, hs, _, hv, _, ho, rfl, rfl, rfl, rfl, rfl, rfl⟩
    refine ⟨fun kind => ?_, hs, hv, ho⟩
    cases kind
    · exact hu
    · exact hg
    · exact hr
  · rintro ⟨hsection, hs, hv, ho⟩
    exact ⟨_, hsection .user, _, hsection .group, _, hsection .repository, _, hs, _, hv, _, ho,
      rfl, rfl, rfl, rfl, rfl, rfl⟩

/-! ### Reasons of failures -/

/-- A result without the reason of its failure. -/
def forgetReason (r : Except ε α) : Except Unit α := r.mapError fun _ => ()

/-- The answers without the reasons of their failures. -/
def Answers.forget (a : Answers ε) : Answers Unit where
  count := fun kind => forgetReason (a.count kind)
  latest := fun kind => forgetReason (a.latest kind)
  owner := forgetReason a.owner
  snapshot := forgetReason a.snapshot
  components := forgetReason a.components

theorem entitySection_forget (kind : EntityKind) (count : Except ε Int)
    (latest : Except ε (Option LatestEntity)) :
    entitySection kind (forgetReason count) (forgetReason latest) =
      entitySection kind count latest := by
  rcases count with _ | n <;> rcases latest with _ | _ | e <;> rfl

theorem systemSection_forget (snapshot : Except ε Snapshot) :
    systemSection (forgetReason snapshot) = systemSection snapshot := by
  rcases snapshot with _ | s <;> rfl

theorem componentList_forget (components : Except ε (List Component)) :
    componentList (forgetReason components) = componentList components := by
  rcases components with _ | cs <;> rfl

theorem ownerText_forget (owner : Except ε Value) :
    ownerText (forgetReason owner) = ownerText owner := by
  rcases owner with _ | v
  · rfl
  · cases v <;> rfl

/-- The view does not depend on the reasons of failures. -/
theorem Answers.view_forget (a : Answers ε) : a.forget.view = a.view := by
  simp only [Answers.view, Answers.forget, entitySection_forget, systemSection_forget,
    componentList_forget, ownerText_forget]

end ForgeDashboard
