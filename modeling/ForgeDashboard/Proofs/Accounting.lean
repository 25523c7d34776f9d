import ForgeDashboard.Proofs.Difference
import ForgeDashboard.Proofs.Outcome

/-!
# What a build asks and what it logs

A build makes one call to each of its sources, and one more for the owner of the latest repository
if that repository is delivered in time.  A call asks its source once, unless the limit leaves it no
time, and it leaves one line in the log if its source was late or failed, and none otherwise.  What
the view makes of the answers does not matter for either.

The owner is called in the time that the latest repository has left.  This is always some time: on
doubles, too, the difference to a later moment is positive.

## Main definitions

* `Source.TimesOut`, `Source.Breaks`, `Source.Responds` : the three ways for a call to end.
* `Sources.Calls` : the calls of a build, each with its source, its start and its limit.
* `Run.questionsTo`, `Run.linesAbout` : what a build asked a source, and what it logged about it.

## Main results

* `call_asked_iff`, `call_lines` : when a call asks its source, and what it leaves in the log.
* `Sources.Calls.linesAbout_eq` : a build logs for a call what the call leaves, and nothing else.
* `each_call_asks_and_logs_once` : the account of a whole build.
-/

namespace ForgeDashboard

/-! ### One call -/

/-- Whose call a notice is about. -/
def Notice.source {τ : Type} : Notice τ → String
  | .late source _ => source
  | .failed source => source

namespace Source

variable {τ α : Type} [Zero τ] [Add τ] [LT τ] [LE τ]

/-- The source does not act before the deadline of a call, or it reports a time-out. -/
def TimesOut (start limit : τ) (s : Source τ α) : Prop :=
  ¬s.InTime start limit ∨ ∃ f, s.behaviour = .fails f ∧ f.kind = .timeout

/-- The source fails otherwise before the deadline of a call. -/
def Breaks (start limit : τ) (s : Source τ α) : Prop :=
  s.InTime start limit ∧ ∃ f, s.behaviour = .fails f ∧ f.kind ≠ .timeout

/-- The source gives a value before the deadline of a call, or says by itself that it has none. -/
def Responds (start limit : τ) (s : Source τ α) : Prop :=
  s.InTime start limit ∧ ∃ result, s.behaviour = .answers result

/-- There is no other way for a call to end. -/
theorem timesOut_or_breaks_or_responds (start limit : τ) (s : Source τ α) :
    s.TimesOut start limit ∨ s.Breaks start limit ∨ s.Responds start limit := by
  by_cases hin : s.InTime start limit
  · rcases hb : s.behaviour with result | f
    · exact .inr (.inr ⟨hin, result, hb⟩)
    · by_cases hf : f.kind = .timeout
      · exact .inl (.inr ⟨f, hb, hf⟩)
      · exact .inr (.inl ⟨hin, f, hb, hf⟩)
  · exact .inl (.inl hin)

end Source

section Call

variable {τ α : Type} [Zero τ] [Add τ] [LT τ] [DecidableLT τ] [LE τ] [DecidableLE τ]
  {name : String} {start limit : τ} {s : Source τ α}

/-- A source is asked if it has any time to answer. -/
theorem call_asked_iff : (call name start limit s).asked = true ↔ ¬limit ≤ 0 := by
  rw [call]
  split_ifs with hlimit hlt
  · simp [Attempt.late, hlimit]
  · rcases hb : s.behaviour with result | f
    · simp [Behaviour.attempt, hlimit]
    · by_cases hf : f.kind = .timeout <;> simp [Behaviour.attempt, hf, Attempt.late, hlimit]
  · simp [Attempt.late, hlimit]

theorem call_notice_of_not_inTime (h : ¬s.InTime start limit) :
    (call name start limit s).notice = some (.late name limit) := by
  rw [call]
  split_ifs with hlimit hlt
  · rfl
  · exact absurd ⟨hlimit, hlt⟩ h
  · rfl

theorem call_notice_of_timesOut (h : s.TimesOut start limit) :
    (call name start limit s).notice = some (.late name limit) := by
  by_cases hin : s.InTime start limit
  · obtain ⟨f, hf, htimeout⟩ := h.resolve_left (not_not.mpr hin)
    simp [call_of_inTime hin, hf, Behaviour.attempt, htimeout, Attempt.late]
  · exact call_notice_of_not_inTime hin

theorem call_notice_of_breaks (h : s.Breaks start limit) :
    (call name start limit s).notice = some (.failed name) := by
  obtain ⟨hin, f, hf, htimeout⟩ := h
  simp [call_of_inTime hin, hf, Behaviour.attempt, htimeout]

theorem call_notice_of_responds (h : s.Responds start limit) :
    (call name start limit s).notice = none := by
  obtain ⟨hin, result, hresult⟩ := h
  rw [call_of_inTime hin, hresult]
  rfl

theorem call_notice_eq_late_iff :
    (call name start limit s).notice = some (.late name limit) ↔ s.TimesOut start limit := by
  refine ⟨fun h => ?_, call_notice_of_timesOut⟩
  rcases s.timesOut_or_breaks_or_responds start limit with ht | hb | hr
  · exact ht
  · cases h.symm.trans (call_notice_of_breaks hb)
  · cases h.symm.trans (call_notice_of_responds hr)

theorem call_notice_eq_failed_iff :
    (call name start limit s).notice = some (.failed name) ↔ s.Breaks start limit := by
  refine ⟨fun h => ?_, call_notice_of_breaks⟩
  rcases s.timesOut_or_breaks_or_responds start limit with ht | hb | hr
  · cases h.symm.trans (call_notice_of_timesOut ht)
  · exact hb
  · cases h.symm.trans (call_notice_of_responds hr)

theorem call_notice_eq_none_iff :
    (call name start limit s).notice = none ↔ s.Responds start limit := by
  refine ⟨fun h => ?_, call_notice_of_responds⟩
  rcases s.timesOut_or_breaks_or_responds start limit with ht | hb | hr
  · cases h.symm.trans (call_notice_of_timesOut ht)
  · cases h.symm.trans (call_notice_of_breaks hb)
  · exact hr

/-- A call is logged under its own name. -/
theorem source_of_call_notice {n : Notice τ} (h : (call name start limit s).notice = some n) :
    n.source = name := by
  rcases s.timesOut_or_breaks_or_responds start limit with ht | hb | hr
  · cases h.symm.trans (call_notice_of_timesOut ht)
    rfl
  · cases h.symm.trans (call_notice_of_breaks hb)
    rfl
  · cases h.symm.trans (call_notice_of_responds hr)

end Call

/-- The lines that a call leaves in the log. -/
theorem call_lines {α : Type} (name : String) (start limit : Binary64) (s : Source Binary64 α) :
    ((call name start limit s).notice.toList.map Notice.line =
        [⟨.warning, "Dashboard source " ++ name ++ " timed out after " ++
          limit.fixedText 1 ++ "s"⟩] ↔ s.TimesOut start limit) ∧
    ((call name start limit s).notice.toList.map Notice.line =
        [⟨.error, "Dashboard source " ++ name ++ " failed"⟩] ↔ s.Breaks start limit) ∧
    ((call name start limit s).notice.toList.map Notice.line = [] ↔ s.Responds start limit) := by
  have hlate :
      (call name start limit s).notice = some (.late name limit) ↔ s.TimesOut start limit :=
    call_notice_eq_late_iff
  have hfailed : (call name start limit s).notice = some (.failed name) ↔ s.Breaks start limit :=
    call_notice_eq_failed_iff
  have hnone : (call name start limit s).notice = none ↔ s.Responds start limit :=
    call_notice_eq_none_iff
  rw [← hlate, ← hfailed, ← hnone]
  rcases s.timesOut_or_breaks_or_responds start limit with h | h | h
  · simp [call_notice_of_timesOut h, Notice.line]
  · simp [call_notice_of_breaks h, Notice.line]
  · simp [call_notice_of_responds h]

/-! ### The names of the sources -/

namespace SourceName

/-- The names of all sources. -/
def all : List SourceName :=
  EntityKind.all.map .count ++ EntityKind.all.map .latest ++ [.owner, .telemetry, .versions]

theorem mem_all (name : SourceName) : name ∈ all := by
  rcases name with (_ | _ | _) | (_ | _ | _) | _ | _ | _ <;> decide

theorem nodup_all : all.Nodup := by decide

/-- No two sources are logged under the same name. -/
theorem nodup_text : (all.map text).Nodup := by decide

end SourceName

/-! ### A whole build -/

namespace Run

variable {τ : Type} (r : Run τ)

/-- What is logged about a source. -/
def noticeOf : SourceName → Option (Notice τ)
  | .count kind => (r.count kind).notice
  | .latest kind => (r.latest kind).notice
  | .owner => r.repository.owner.bind (·.2.notice)
  | .telemetry => r.telemetry.notice
  | .versions => r.versions.notice

/-- The question of a call, if its source was asked. -/
def asked? {α : Type} (q : Question) (a : Attempt τ α) : Option Question :=
  if a.asked then some q else none

theorem asked?_call {α : Type} [Zero τ] [Add τ] [LT τ] [DecidableLT τ] [LE τ] [DecidableLE τ]
    (q : Question) (name : String) (start limit : τ) (s : Source τ α) :
    asked? q (call name start limit s) = if limit ≤ 0 then none else some q := by
  rw [asked?]
  by_cases hlimit : limit ≤ 0
  · rw [if_neg (call_asked_iff.not.mpr (not_not.mpr hlimit)), if_pos hlimit]
  · rw [if_pos (call_asked_iff.mpr hlimit), if_neg hlimit]

/-- The question to a source, if it was asked. -/
def questionTo : SourceName → Option Question
  | .count kind => asked? (.plain (.count kind)) (r.count kind)
  | .latest kind => asked? (.plain (.latest kind)) (r.latest kind)
  | .owner => r.repository.owner.bind fun p => asked? (.owner p.1) p.2
  | .telemetry => asked? (.plain .telemetry) r.telemetry
  | .versions => asked? (.plain .versions) r.versions

theorem notices_eq : r.notices = SourceName.all.filterMap r.noticeOf := by
  rw [List.filterMap_eq_flatMap_toList]
  rcases howner : r.repository.owner with _ | asked <;>
    simp [SourceName.all, EntityKind.all, notices, branchNotices, noticeOf, howner, latest]

theorem questionOf_eq {α : Type} (q : Question) (a : Attempt τ α) :
    questionOf q a = (asked? q a).toList := by
  rw [questionOf, asked?]
  split_ifs <;> rfl

theorem questions_eq : r.questions = SourceName.all.filterMap r.questionTo := by
  rw [List.filterMap_eq_flatMap_toList]
  rcases howner : r.repository.owner with _ | asked <;>
    simp [SourceName.all, EntityKind.all, questions, branchQuestions, questionTo, howner, latest,
      questionOf_eq]

theorem eq_of_asked? {α : Type} {q q' : Question} {a : Attempt τ α} (h : asked? q a = some q') :
    q' = q := by
  rw [asked?] at h
  split_ifs at h
  exact (Option.some.inj h).symm

theorem source_of_questionTo {name : SourceName} {q : Question} (h : r.questionTo name = some q) :
    q.source = name := by
  cases name with
  | owner =>
    obtain ⟨p, -, hp⟩ := Option.bind_eq_some_iff.mp h
    rw [eq_of_asked? hp]
    rfl
  | _ =>
    rw [eq_of_asked? h]
    rfl

/-- The questions to a source. -/
theorem filter_questions_eq (name : SourceName) :
    r.questions.filter (·.source == name) = (r.questionTo name).toList := by
  rw [questions_eq]
  have hnodup : (SourceName.all.map id).Nodup := by
    rw [List.map_id]
    exact SourceName.nodup_all
  exact filter_filterMap_eq_toList (fun _ _ => r.source_of_questionTo) hnodup name.mem_all

end Run

namespace Sources

section

variable {τ : Type} [Zero τ] [Add τ] [Sub τ] [LT τ] [DecidableLT τ] [LE τ] [DecidableLE τ]

/-- A call of a build: its source, when it starts and how long it may take.  The owner is called if
the latest repository is delivered in time, and then in the time that is left. -/
inductive Calls (sources : Sources τ) (start limit : τ) :
    (name : SourceName) → Source τ name.Answer → τ → τ → Prop
  | count (kind : EntityKind) :
      Calls sources start limit (.count kind) (sources.count kind) start limit
  | latest (kind : EntityKind) :
      Calls sources start limit (.latest kind) (sources.latest kind) start limit
  | owner (e : LatestEntity) (h : (sources.latest .repository).Delivers start limit (some e)) :
      Calls sources start limit .owner (sources.owner e.id) (sources.ownerStart start)
        (sources.ownerLimit start limit)
  | telemetry : Calls sources start limit .telemetry sources.telemetry start limit
  | versions : Calls sources start limit .versions sources.versions start limit

variable {sources : Sources τ} {start limit st lim : τ} {name : SourceName}
  {s : Source τ name.Answer}

/-- A build logs for a call what the call leaves. -/
theorem Calls.noticeOf_eq (h : sources.Calls start limit name s st lim) :
    (runSources sources start limit).noticeOf name = (call name.text st lim s).notice := by
  cases h with
  | count kind => rfl
  | latest kind => exact congrArg Attempt.notice (latest_runSources ..)
  | owner e h =>
    show ((repositoryBranch sources start limit).owner.bind _) = _
    rw [repositoryBranch_of_delivers sources start limit h]
    rfl
  | telemetry => rfl
  | versions => rfl

omit [DecidableLE τ] in
/-- Every source but the owner is called; the owner is called if there is a repository. -/
theorem exists_calls (hname : name = .owner →
      ∃ e, (sources.latest .repository).Delivers start limit (some e)) :
    ∃ s st lim, sources.Calls start limit name s st lim := by
  cases name with
  | count kind => exact ⟨_, _, _, .count kind⟩
  | latest kind => exact ⟨_, _, _, .latest kind⟩
  | owner =>
    obtain ⟨e, he⟩ := hname rfl
    exact ⟨_, _, _, .owner e he⟩
  | telemetry => exact ⟨_, _, _, .telemetry⟩
  | versions => exact ⟨_, _, _, .versions⟩

/-- A source that is not called is not asked, and nothing is logged about it. -/
theorem noticeOf_of_no_call (h : ∀ s st lim, ¬sources.Calls start limit name s st lim) :
    (runSources sources start limit).noticeOf name = none ∧
      (runSources sources start limit).questionTo name = none := by
  have hnone : ∀ e, ¬(sources.latest .repository).Delivers start limit (some e) := by
    intro e he
    obtain ⟨s, st, lim, hcall⟩ := exists_calls fun (_ : name = .owner) => ⟨e, he⟩
    exact h s st lim hcall
  have howner : name = .owner := by
    by_contra hne
    have hcalls : ∃ s st lim, sources.Calls start limit name s st lim :=
      exists_calls fun heq => absurd heq hne
    obtain ⟨s, st, lim, hcall⟩ := hcalls
    exact h s st lim hcall
  subst howner
  have hbranch := repositoryBranch_owner_eq_none_iff.mpr hnone
  constructor
  · show ((repositoryBranch sources start limit).owner.bind _) = none
    rw [hbranch]
    rfl
  · show ((repositoryBranch sources start limit).owner.bind _) = none
    rw [hbranch]
    rfl

theorem source_of_noticeOf {n : Notice τ}
    (h : (runSources sources start limit).noticeOf name = some n) : n.source = name.text := by
  by_cases hcall : ∃ s st lim, sources.Calls start limit name s st lim
  · obtain ⟨s, st, lim, hcall⟩ := hcall
    exact source_of_call_notice (hcall.noticeOf_eq.symm.trans h)
  · push Not at hcall
    rw [(noticeOf_of_no_call hcall).1] at h
    cases h

/-- What is logged about a source is what its call leaves. -/
theorem filter_notices_eq (name : SourceName) :
    (runSources sources start limit).notices.filter (·.source == name.text) =
      ((runSources sources start limit).noticeOf name).toList := by
  rw [Run.notices_eq]
  exact filter_filterMap_eq_toList (fun _ _ => source_of_noticeOf) SourceName.nodup_text
    name.mem_all

/-- Every source but the owner is asked, if there is any time. -/
theorem questionTo_of_ne_owner (hname : name ≠ .owner) :
    (runSources sources start limit).questionTo name =
      if limit ≤ 0 then none else some (.plain name) := by
  cases name with
  | count kind => exact Run.asked?_call ..
  | latest kind =>
    rw [Run.questionTo, latest_runSources]
    exact Run.asked?_call ..
  | owner => exact absurd rfl hname
  | telemetry => exact Run.asked?_call ..
  | versions => exact Run.asked?_call ..

/-- The owner of a delivered repository is asked for, if there is any time left. -/
theorem questionTo_owner_of_delivers {e : LatestEntity}
    (h : (sources.latest .repository).Delivers start limit (some e)) :
    (runSources sources start limit).questionTo .owner =
      if sources.ownerLimit start limit ≤ 0 then none else some (.owner e.id) := by
  show ((repositoryBranch sources start limit).owner.bind _) = _
  rw [repositoryBranch_of_delivers sources start limit h]
  exact Run.asked?_call ..

/-- Without any time no source is asked. -/
theorem questions_of_le (hlimit : limit ≤ 0) : (runSources sources start limit).questions = [] := by
  rw [Run.questions_eq]
  refine List.filterMap_eq_nil_iff.mpr fun name _ => ?_
  by_cases hname : name = .owner
  · subst hname
    refine (noticeOf_of_no_call fun s st lim h => ?_).2
    cases h with
    | owner e h => exact h.1.1 hlimit
  · rw [questionTo_of_ne_owner hname, if_pos hlimit]

end

end Sources

/-- The questions to a source. -/
def Run.questionsTo {τ : Type} (r : Run τ) (name : SourceName) : List Question :=
  r.questions.filter (·.source == name)

/-- The lines of the log about a source. -/
def Run.linesAbout (r : Run Binary64) (name : SourceName) : List LogLine :=
  (r.notices.filter (·.source == name.text)).map Notice.line

section

variable {sources : Sources Binary64} {start limit : Binary64}

/-- Some time is left for the owner of a repository that is delivered in time. -/
theorem Sources.ownerLimit_pos {e : LatestEntity}
    (h : (sources.latest .repository).Delivers start limit (some e)) :
    0 < sources.ownerLimit start limit :=
  Binary64.restOf_pos h.1.2

theorem Sources.Calls.linesAbout_eq {name : SourceName} {s : Source Binary64 name.Answer}
    {st lim : Binary64} (h : sources.Calls start limit name s st lim) :
    (runSources sources start limit).linesAbout name =
      (call name.text st lim s).notice.toList.map Notice.line := by
  rw [Run.linesAbout, filter_notices_eq, h.noticeOf_eq]

end

/-- **Each call asks once and is logged once.**  Under a positive limit every source but the owner
is asked exactly once; the owner is asked for exactly once, and for the latest repository, if that
is delivered in time, and else not at all.  Under a limit of at most zero nothing is asked, and all
eight calls are late.  Whatever becomes of the view, the log has one warning about each call that
was late or whose source reported a time-out, one error about each call whose source failed
otherwise before the deadline, nothing about a call whose source responded in time, nothing about a
source that was not called, and nothing else. -/
theorem each_call_asks_and_logs_once (sources : Sources Binary64) (start limit : Binary64) :
    (0 < limit →
      (∀ name, name ≠ .owner →
        (runSources sources start limit).questionsTo name = [.plain name]) ∧
      (∀ e, (sources.latest .repository).Delivers start limit (some e) →
        (runSources sources start limit).questionsTo .owner = [.owner e.id]) ∧
      ((∀ e, ¬(sources.latest .repository).Delivers start limit (some e)) →
        (runSources sources start limit).questionsTo .owner = [])) ∧
    (limit ≤ 0 →
      (runSources sources start limit).questions = [] ∧
      (∀ kind, ((runSources sources start limit).count kind).result =
        .error ⟨(SourceName.count kind).text, .late limit⟩) ∧
      (∀ kind, ((runSources sources start limit).latest kind).result =
        .error ⟨(SourceName.latest kind).text, .late limit⟩) ∧
      (runSources sources start limit).telemetry.result =
        .error ⟨SourceName.telemetry.text, .late limit⟩ ∧
      (runSources sources start limit).versions.result =
        .error ⟨SourceName.versions.text, .late limit⟩) ∧
    (∀ name s st lim, sources.Calls start limit name s st lim →
      ((runSources sources start limit).linesAbout name =
          [⟨.warning, "Dashboard source " ++ name.text ++ " timed out after " ++
            lim.fixedText 1 ++ "s"⟩] ↔ s.TimesOut st lim) ∧
      ((runSources sources start limit).linesAbout name =
          [⟨.error, "Dashboard source " ++ name.text ++ " failed"⟩] ↔ s.Breaks st lim) ∧
      ((runSources sources start limit).linesAbout name = [] ↔ s.Responds st lim)) ∧
    (∀ name, (∀ s st lim, ¬sources.Calls start limit name s st lim) →
      (runSources sources start limit).linesAbout name = []) ∧
    ∀ n ∈ (runSources sources start limit).notices, ∃ name : SourceName, n.source = name.text := by
  refine ⟨fun hlimit => ⟨fun name hname => ?_, fun e he => ?_, fun hnone => ?_⟩,
    fun hlimit => ?_, fun name s st lim hcall => ?_, fun name hnone => ?_, fun n hn => ?_⟩
  · rw [Run.questionsTo, Run.filter_questions_eq, Sources.questionTo_of_ne_owner hname,
      if_neg (Binary64.not_le_of_lt hlimit)]
    rfl
  · rw [Run.questionsTo, Run.filter_questions_eq, Sources.questionTo_owner_of_delivers he,
      if_neg (Binary64.not_le_of_lt (Sources.ownerLimit_pos he))]
    rfl
  · rw [Run.questionsTo, Run.filter_questions_eq, (Sources.noticeOf_of_no_call ?_).2]
    · rfl
    · intro s st lim hcall
      cases hcall with
      | owner e he => exact hnone e he
  · have hlate {α : Type} (name : String) (s : Source Binary64 α) :
        (call name start limit s).result = .error ⟨name, .late limit⟩ :=
      call_result_of_not_inTime fun h => h.1 hlimit
    refine ⟨Sources.questions_of_le hlimit, fun kind => hlate _ _, fun kind => ?_, hlate _ _,
      hlate _ _⟩
    rw [latest_runSources]
    exact hlate _ _
  · rw [hcall.linesAbout_eq]
    exact call_lines ..
  · rw [Run.linesAbout, Sources.filter_notices_eq, (Sources.noticeOf_of_no_call hnone).1]
    rfl
  · rw [Run.notices_eq] at hn
    obtain ⟨name, -, hname⟩ := List.mem_filterMap.mp hn
    exact ⟨name, Sources.source_of_noticeOf hname⟩

/-- Sources of which the owner comes too late for the time that the latest repository leaves, while
the host reports a time-out, the versions fail, and the counts cannot be shown. -/
def troubledSources : Sources Binary64 where
  count := fun _ => ⟨Binary64.ofRat 1, .answers (.ok (-1))⟩
  latest := fun kind => ⟨Binary64.ofRat 3, .answers (.ok (some ⟨kind, 11, .text "arena"⟩))⟩
  owner := fun _ => ⟨Binary64.ofRat 4, .answers (.ok (.text "alice"))⟩
  telemetry := ⟨0, .fails (.raised .timeout none)⟩
  versions := ⟨Binary64.ofRat 2, .fails (.raised .runtime none)⟩

theorem troubled_build_account :
    (0 : Binary64) < Binary64.ofRat 5 ∧
      (runSources troubledSources 0 (Binary64.ofRat 5)).view.isOk = false ∧
      (runSources troubledSources 0 (Binary64.ofRat 5)).questionsTo .telemetry =
        [.plain .telemetry] ∧
      (runSources troubledSources 0 (Binary64.ofRat 5)).questionsTo .owner = [.owner 11] ∧
      (runSources troubledSources 0 (Binary64.ofRat 5)).linesAbout .owner =
        [⟨.warning, "Dashboard source repository.owner timed out after 2.0s"⟩] ∧
      (runSources troubledSources 0 (Binary64.ofRat 5)).linesAbout .telemetry =
        [⟨.warning, "Dashboard source telemetry timed out after 5.0s"⟩] ∧
      (runSources troubledSources 0 (Binary64.ofRat 5)).linesAbout .versions =
        [⟨.error, "Dashboard source versions failed"⟩] ∧
      (runSources troubledSources 0 (Binary64.ofRat 5)).linesAbout (.latest .user) = [] := by
  have hlimit : (0 : Binary64) < Binary64.ofRat 5 := by decide +kernel
  have hrepository : (troubledSources.latest .repository).Delivers 0 (Binary64.ofRat 5)
      (some ⟨.repository, 11, .text "arena"⟩) :=
    ⟨by decide +kernel, rfl⟩
  obtain ⟨hasked, -, hlines, -, -⟩ :=
    each_call_asks_and_logs_once troubledSources 0 (Binary64.ofRat 5)
  obtain ⟨hplain, howner, -⟩ := hasked hlimit
  refine ⟨hlimit, by decide +kernel, hplain _ (by decide), howner _ hrepository, ?_, ?_, ?_, ?_⟩
  · have hlate : ¬(troubledSources.owner 11).InTime (troubledSources.ownerStart 0)
        (troubledSources.ownerLimit 0 (Binary64.ofRat 5)) := by decide +kernel
    have htext : (troubledSources.ownerLimit 0 (Binary64.ofRat 5)).fixedText 1 = "2.0" := by
      decide +kernel
    rw [(hlines _ _ _ _ (.owner _ hrepository)).1.mpr (.inl hlate), htext]
    rfl
  · have htext : (Binary64.ofRat 5).fixedText 1 = "5.0" := by decide +kernel
    rw [(hlines _ _ _ _ .telemetry).1.mpr (.inr ⟨_, rfl, rfl⟩), htext]
    rfl
  · exact (hlines _ _ _ _ .versions).2.1.mpr ⟨by decide +kernel, _, rfl, by decide⟩
  · exact (hlines _ _ _ _ (.latest .user)).2.2.mpr ⟨by decide +kernel, _, rfl⟩

end ForgeDashboard
