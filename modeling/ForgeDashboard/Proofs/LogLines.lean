import ForgeDashboard.Log.Record
import ForgeDashboard.Proofs.DurationReading
import ForgeDashboard.Proofs.Sections
import ForgeDashboard.Text.Split

/-!
# The log of several workers

Several workers write to one output.  Each of them has a number of its own, and marks each of its
records with it: the number stands in brackets behind the time stamp.  Records reach the output one
by one, in any order that keeps those of each worker in sequence.

A record has one header, however long its message is.  So the first line of each record tells the
worker, and if no message has a line break, every line does: then the lines of the output that carry
the number of a worker are the lines that it would have written alone.  The lines of a message after
the first one carry whatever the message says.

## Main definitions

* `RunNumber`, `Worker` : the number of a worker, and what it logs.
* `Arrive` : the orders in which records reach the output.
* `outputOf`, `outputLines` : the output, and its lines.
* `runOf?`, `linesOfRun` : the number that a line carries, and the lines that carry a number.
* `Workers`, `SingleLines` : workers whose records have texts, and texts of one line.

## Main results

* `filter_of_arrive` : the records of each worker arrive in sequence.
* `exists_lines_written` : the first line of a record carries the number of its worker.
* `single_lines_told_apart` : the output of several workers taken apart.
* `second_line_without_run` : a message of several lines, which is not.
-/

namespace ForgeDashboard

/-! ### Workers and their output -/

/-- The digits of the numbers of workers. -/
def isRunDigit (c : Char) : Bool := c.isDigit || 'a' ≤ c && c ≤ 'f'

/-- The number of a worker: eight digits to the base sixteen. -/
structure RunNumber where
  text : String
  length_eq : text.length = 8
  isRunDigit_of_mem : ∀ c ∈ text.toList, isRunDigit c = true
  deriving DecidableEq

/-- A worker with its number and the records that it logs, in order. -/
structure Worker where
  run : RunNumber
  records : List LogRecord

/-- The records of workers reach the output one by one, those of each worker in order. -/
inductive Arrive : List Worker → List (RunNumber × LogRecord) → Prop
  | done {workers : List Worker} : (∀ w ∈ workers, w.records = []) → Arrive workers []
  | next {before after : List Worker} {run : RunNumber} {r : LogRecord} {rest : List LogRecord}
      {arrivals : List (RunNumber × LogRecord)} :
      Arrive (before ++ ⟨run, rest⟩ :: after) arrivals →
      Arrive (before ++ ⟨run, r :: rest⟩ :: after) ((run, r) :: arrivals)

/-- The output of records that arrive one after another. -/
def outputOf : List (RunNumber × LogRecord) → Except Fault String
  | [] => .ok ""
  | (run, r) :: arrivals => do
    let first ← r.emitted run.text
    return first ++ (← outputOf arrivals)

/-- The lines of an output, each of which ends in a line break. -/
def outputLines (output : String) : List String := (linesOf output).dropLast

/-- The characters of time stamps. -/
def isStampChar (c : Char) : Bool := c.isDigit || [' ', '-', ':', ','].contains c

/-- The number that a line carries: the text in brackets behind its time stamp. -/
def runOf? (line : String) : Option String :=
  if (line.toList.takeWhile isStampChar).isEmpty then none
  else match line.toList.dropWhile isStampChar with
    | '[' :: rest => if ']' ∈ rest then some (String.ofList (rest.takeWhile (· != ']'))) else none
    | _ => none

/-! ### Arrivals -/

variable {workers : List Worker} {arrivals : List (RunNumber × LogRecord)}

/-- The records of each worker arrive in sequence. -/
theorem filter_of_arrive (h : Arrive workers arrivals) (hruns : (workers.map (·.run)).Nodup)
    {w : Worker} (hw : w ∈ workers) :
    arrivals.filter (·.1 = w.run) = w.records.map (w.run, ·) := by
  induction h generalizing w with
  | done hnone => simp [hnone w hw]
  | @next before after run r rest arrivals _ ih =>
    have hsame : (before ++ ⟨run, r :: rest⟩ :: after).map (·.run) =
        (before ++ ⟨run, rest⟩ :: after).map (·.run) := by simp
    by_cases hrun : run = w.run
    · obtain rfl : w = ⟨run, r :: rest⟩ :=
        List.inj_on_of_nodup_map hruns hw (by simp) hrun.symm
      have hlater := ih (hsame ▸ hruns) (w := ⟨run, rest⟩) (by simp)
      simpa using hlater
    · have hother : w ∈ before ++ ⟨run, rest⟩ :: after := by
        have hne : w ≠ ⟨run, r :: rest⟩ := fun h => hrun (h ▸ rfl)
        have hw : w ∈ before ∨ w ∈ after := by simpa [hne] using hw
        simpa using hw.imp_right .inr
      rw [List.filter_cons_of_neg (by simpa using hrun)]
      exact ih (hsame ▸ hruns) hother

/-- Nothing arrives that no worker logs. -/
theorem exists_worker_of_arrive (h : Arrive workers arrivals) {a : RunNumber × LogRecord}
    (ha : a ∈ arrivals) : ∃ w ∈ workers, a.1 = w.run ∧ a.2 ∈ w.records := by
  induction h with
  | done _ => cases ha
  | @next before after run r rest arrivals _ ih =>
    rcases List.mem_cons.mp ha with rfl | ha
    · exact ⟨⟨run, r :: rest⟩, by simp, rfl, List.mem_cons_self⟩
    · obtain ⟨w, hw, hrun, hrecord⟩ := ih ha
      rcases List.mem_append.mp hw with hw | hw
      · exact ⟨w, by simp [hw], hrun, hrecord⟩
      · rcases List.mem_cons.mp hw with rfl | hw
        · exact ⟨⟨run, r :: rest⟩, by simp, hrun, List.mem_cons_of_mem r hrecord⟩
        · exact ⟨w, by simp [hw], hrun, hrecord⟩

/-! ### Lines -/

theorem linesOf_eq (s : String) : linesOf s = (s.toList.splitOn '\n').map String.ofList := by
  rw [linesOf, splitWhere_eq_splitOnP]
  rfl

/-- What follows a line break starts a line. -/
theorem linesOf_append_newline (s t : String) :
    linesOf (s ++ "\n" ++ t) = linesOf s ++ linesOf t := by
  have hbreak : (s ++ "\n" ++ t).toList = s.toList ++ '\n' :: t.toList := by simp
  rw [linesOf_eq, hbreak, List.splitOn_append_cons_self, List.map_append, ← linesOf_eq,
    ← linesOf_eq]

theorem linesOf_of_single {s : String} (h : '\n' ∉ s.toList) : linesOf s = [s] := by
  rw [linesOf_eq, List.splitOn_eq_singleton h, List.map_singleton, String.ofList_toList]

theorem splitOn_append_of_notMem {α : Type} [BEq α] [LawfulBEq α] {a : α} {start : List α}
    (h : a ∉ start) (rest : List α) :
    (start ++ rest).splitOn a = (rest.splitOn a).modifyHead (start ++ ·) := by
  induction start with
  | nil =>
    rcases hsplit : rest.splitOn a with _ | ⟨first, others⟩
    · exact absurd hsplit (List.splitOn_ne_nil a rest)
    · simp [hsplit]
  | cons c start ih =>
    rw [List.mem_cons, not_or] at h
    rw [List.cons_append, List.splitOn_cons_eq_if_modifyHead, ih h.2,
      if_neg (by simpa using Ne.symm h.1), List.modifyHead_modifyHead]
    rfl

/-- A text without line breaks belongs to the first line of what follows it. -/
theorem linesOf_append {s : String} (h : '\n' ∉ s.toList) (t : String) :
    linesOf (s ++ t) = (linesOf t).modifyHead (s ++ ·) := by
  rw [linesOf_eq, linesOf_eq, String.toList_append, splitOn_append_of_notMem h]
  rcases hsplit : t.toList.splitOn '\n' with _ | ⟨first, others⟩
  · exact absurd hsplit (List.splitOn_ne_nil '\n' t.toList)
  · simp [String.ofList_append]

theorem linesOf_ne_nil (s : String) : linesOf s ≠ [] := by
  simp [linesOf_eq]

/-! ### Headers -/

theorem isStampChar_of_isDigit {c : Char} (h : c.isDigit = true) : isStampChar c = true := by
  simp [isStampChar, h]

theorem isStampChar_twoDigits (n : Nat) : ∀ c ∈ (twoDigits n).toList, isStampChar c = true := by
  have hnumeral : ∀ c ∈ (toString n).toList, isStampChar c = true := fun c hc =>
    isStampChar_of_isDigit (isDigit_of_mem_numeral hc)
  unfold twoDigits
  split_ifs
  · rw [String.toList_append]
    exact List.forall_mem_append.mpr ⟨List.all_eq_true.mp rfl, hnumeral⟩
  · exact hnumeral

theorem isStampChar_toString (n : Int) : ∀ c ∈ (toString n).toList, isStampChar c = true :=
  fun c hc => by
    rcases isDigit_of_mem_toString hc with rfl | hdigit
    · decide
    · exact isStampChar_of_isDigit hdigit

theorem isStampChar_clockText (seconds : Int) :
    ∀ c ∈ (clockText seconds).toList, isStampChar c = true := by
  simp only [clockText, String.toList_append, List.forall_mem_append]
  refine ⟨⟨⟨⟨⟨⟨⟨⟨⟨⟨isStampChar_toString _, ?_⟩, isStampChar_twoDigits _⟩, ?_⟩,
    isStampChar_twoDigits _⟩, ?_⟩, isStampChar_twoDigits _⟩, ?_⟩, isStampChar_twoDigits _⟩, ?_⟩,
    isStampChar_twoDigits _⟩ <;> exact List.all_eq_true.mp rfl

theorem isStampChar_paddedInteger (width : Nat) (n : Int) :
    ∀ c ∈ (paddedInteger width n).toList, isStampChar c = true := by
  simp only [paddedInteger, String.toList_append, List.forall_mem_append, String.toList_ofList]
  refine ⟨⟨?_, fun c hc => ?_⟩, fun c hc => isStampChar_of_isDigit (isDigit_of_mem_numeral hc)⟩
  · split_ifs <;> exact List.all_eq_true.mp rfl
  · rw [List.eq_of_mem_replicate hc]
    decide

namespace LogRecord

/-- The time stamp of a record, and the blank after it. -/
def stamp (r : LogRecord) : String := clockText r.seconds ++ "," ++ paddedInteger 3 r.millis ++ " "

theorem isStampChar_stamp (r : LogRecord) : ∀ c ∈ r.stamp.toList, isStampChar c = true := by
  simp only [stamp, String.toList_append, List.forall_mem_append]
  exact ⟨⟨⟨isStampChar_clockText _, List.all_eq_true.mp rfl⟩, isStampChar_paddedInteger 3 _⟩,
    List.all_eq_true.mp rfl⟩

theorem stamp_ne_nil (r : LogRecord) : r.stamp.toList ≠ [] := by
  simp [stamp]

theorem written_eq_ok_iff {r : LogRecord} {run text : String} :
    r.written run = .ok text ↔
      ∃ message, Template.fill r.template r.arguments = .ok message ∧
        text = r.header run ++ message := by
  rcases hfill : Template.fill r.template r.arguments with f | message
  · simp [written, hfill, bind, Except.bind]
  · simp [written, hfill, bind, Except.bind, pure, Except.pure, eq_comm]

/-- The front of a header: the time stamp, and the number of the worker in brackets. -/
def front (r : LogRecord) (run : RunNumber) : String := r.stamp ++ ("[" ++ run.text ++ "]")

theorem header_eq (r : LogRecord) (run : RunNumber) :
    r.header run.text = r.front run ++ (" " ++ r.level ++ " " ++ r.name ++ ": ") := by
  apply String.toList_inj.mp
  simp [header, front, stamp]

theorem newline_notMem_front (r : LogRecord) (run : RunNumber) :
    '\n' ∉ (r.front run).toList := by
  have hstamp : '\n' ∉ r.stamp.toList := fun hmem =>
    absurd (r.isStampChar_stamp _ hmem) (by decide)
  have hrun : '\n' ∉ run.text.toList := fun hmem =>
    absurd (run.isRunDigit_of_mem _ hmem) (by decide)
  simp [front, hstamp, hrun]

theorem newline_notMem_header {r : LogRecord} (hlevel : '\n' ∉ r.level.toList)
    (hname : '\n' ∉ r.name.toList) (run : RunNumber) : '\n' ∉ (r.header run.text).toList := by
  simp [header_eq, r.newline_notMem_front run, hlevel, hname]

/-- The number behind the time stamp is read. -/
theorem runOf?_front_append (r : LogRecord) (run : RunNumber) (rest : String) :
    runOf? (r.front run ++ rest) = some run.text := by
  have hbefore : ∀ c ∈ run.text.toList, (c != ']') = true := fun c hc =>
    bne_iff_ne.mpr fun heq => absurd (heq ▸ run.isRunDigit_of_mem c hc) (by decide)
  have hopen : isStampChar '[' = false := by decide
  have hstamp : (r.front run ++ rest).toList =
      r.stamp.toList ++ '[' :: (run.text.toList ++ ']' :: rest.toList) := by
    simp [front]
  rw [runOf?, hstamp, List.takeWhile_append_of_pos r.isStampChar_stamp,
    List.dropWhile_append_of_pos r.isStampChar_stamp]
  simp [hopen, r.stamp_ne_nil, List.takeWhile_append_of_pos hbefore]

end LogRecord

/-- The first line of a record carries the number of its worker, whatever its message is. -/
theorem exists_lines_written {r : LogRecord} {run : RunNumber} {text : String}
    (h : r.written run.text = .ok text) :
    ∃ first others, linesOf text = first :: others ∧ runOf? first = some run.text := by
  obtain ⟨message, -, rfl⟩ := LogRecord.written_eq_ok_iff.mp h
  rw [LogRecord.header_eq, String.append_assoc, linesOf_append (r.newline_notMem_front run)]
  rcases hlines : linesOf (" " ++ r.level ++ " " ++ r.name ++ ": " ++ message) with
    _ | ⟨first, others⟩
  · exact absurd hlines (linesOf_ne_nil _)
  · exact ⟨r.front run ++ first, others, rfl, r.runOf?_front_append run first⟩

/-! ### The output -/

/-- What is written for a record that arrives, if there is a text. -/
def messageOf (a : RunNumber × LogRecord) : String :=
  match a.2.written a.1.text with
  | .ok text => text
  | .error _ => ""

theorem messageOf_of_written {a : RunNumber × LogRecord} {text : String}
    (h : a.2.written a.1.text = .ok text) : messageOf a = text := by
  rw [messageOf, h]

/-- The output holds the texts of all records, each with a line break after it. -/
theorem exists_outputOf (h : ∀ a ∈ arrivals, ∃ text, a.2.written a.1.text = .ok text) :
    ∃ output, outputOf arrivals = .ok output ∧
      outputLines output = arrivals.flatMap fun a => linesOf (messageOf a) := by
  suffices ∃ output, outputOf arrivals = .ok output ∧
      linesOf output = arrivals.flatMap (fun a => linesOf (messageOf a)) ++ [""] by
    obtain ⟨output, houtput, hlines⟩ := this
    exact ⟨output, houtput, by rw [outputLines, hlines, List.dropLast_concat]⟩
  induction arrivals with
  | nil => exact ⟨"", rfl, rfl⟩
  | cons a arrivals ih =>
    obtain ⟨text, htext⟩ := h a List.mem_cons_self
    obtain ⟨output, houtput, hlines⟩ := ih fun b hb => h b (List.mem_cons_of_mem a hb)
    refine ⟨text ++ "\n" ++ output, ?_, ?_⟩
    · simp [outputOf, LogRecord.emitted, htext, houtput, bind, Except.bind, pure, Except.pure]
    · rw [linesOf_append_newline, hlines, List.flatMap_cons, messageOf_of_written htext,
        List.append_assoc]

/-- Records of one line each have one line a record. -/
theorem flatMap_linesOf_of_single (hsingle : ∀ a ∈ arrivals, '\n' ∉ (messageOf a).toList) :
    (arrivals.flatMap fun a => linesOf (messageOf a)) = arrivals.map messageOf := by
  induction arrivals with
  | nil => rfl
  | cons a arrivals ih =>
    rw [List.flatMap_cons, List.map_cons, linesOf_of_single (hsingle a List.mem_cons_self),
      ih fun b hb => hsingle b (List.mem_cons_of_mem a hb), List.singleton_append]

theorem outputLines_of_single {output : String}
    (hlines : outputLines output = arrivals.flatMap fun a => linesOf (messageOf a))
    (hsingle : ∀ a ∈ arrivals, '\n' ∉ (messageOf a).toList) :
    outputLines output = arrivals.map messageOf :=
  hlines.trans (flatMap_linesOf_of_single hsingle)

/-- The lines of an output that carry the number of a worker. -/
def linesOfRun (run : RunNumber) (output : String) : List String :=
  (outputLines output).filter (runOf? · = some run.text)

/-- A record of one line is read as one of its worker. -/
theorem runOf?_messageOf {a : RunNumber × LogRecord} {text : String}
    (h : a.2.written a.1.text = .ok text) (hsingle : '\n' ∉ (messageOf a).toList) :
    runOf? (messageOf a) = some a.1.text := by
  obtain ⟨first, others, hlines, hread⟩ := exists_lines_written h
  rw [messageOf_of_written h] at hsingle ⊢
  obtain ⟨rfl, -⟩ := List.cons_eq_cons.mp ((linesOf_of_single hsingle).symm.trans hlines)
  exact hread

theorem RunNumber.text_inj {run run' : RunNumber} : run.text = run'.text ↔ run = run' := by
  cases run
  cases run'
  simp

/-- If all records have one line, the lines with the number of a worker are those of its records, in
order. -/
theorem linesOfRun_of_single {output : String} {run : RunNumber}
    (htexts : ∀ a ∈ arrivals, ∃ text, a.2.written a.1.text = .ok text)
    (hlines : outputLines output = arrivals.flatMap fun a => linesOf (messageOf a))
    (hsingle : ∀ a ∈ arrivals, '\n' ∉ (messageOf a).toList) :
    linesOfRun run output = (arrivals.filter (·.1 = run)).map messageOf := by
  rw [linesOfRun, outputLines_of_single hlines hsingle, List.filter_map]
  congr 1
  refine List.filter_congr fun a ha => ?_
  obtain ⟨text, htext⟩ := htexts a ha
  simp [runOf?_messageOf htext (hsingle a ha), RunNumber.text_inj]

/-! ### The output taken apart -/

/-- The workers have different numbers, and each of their records has a text. -/
structure Workers (workers : List Worker) : Prop where
  nodup : (workers.map (·.run)).Nodup
  exists_written : ∀ w ∈ workers, ∀ r ∈ w.records, ∃ text, r.written w.run.text = .ok text

/-- No record of the workers has a line break in its text. -/
def SingleLines (workers : List Worker) : Prop :=
  ∀ w ∈ workers, ∀ r ∈ w.records, ∀ text, r.written w.run.text = .ok text → '\n' ∉ text.toList

/-- The output of several workers taken apart.  It has the lines of one record after another, and
the first of them carries the number of the worker.  If no record has a line break in its text,
every line carries the number of its worker, and the lines that carry the number of a worker are the
output that it would have had alone. -/
theorem single_lines_told_apart (hworkers : Workers workers) (h : Arrive workers arrivals) :
    ∃ output, outputOf arrivals = .ok output ∧
      (∃ pieces, outputLines output = pieces.flatten ∧
        List.Forall₂ (fun a piece => ∃ text first others, a.2.written a.1.text = .ok text ∧
          piece = linesOf text ∧ piece = first :: others ∧ runOf? first = some a.1.text)
          arrivals pieces) ∧
      (SingleLines workers →
        List.Forall₂ (fun a line => a.2.written a.1.text = .ok line ∧ runOf? line = some a.1.text)
          arrivals (outputLines output) ∧
        ∀ w ∈ workers, ∃ own, outputOf (w.records.map (w.run, ·)) = .ok own ∧
          linesOfRun w.run output = outputLines own) := by
  have htexts : ∀ a ∈ arrivals, ∃ text, a.2.written a.1.text = .ok text := by
    rintro ⟨run, r⟩ ha
    obtain ⟨w, hw, rfl, hr⟩ := exists_worker_of_arrive h ha
    exact hworkers.exists_written w hw r hr
  obtain ⟨output, houtput, hlines⟩ := exists_outputOf htexts
  refine ⟨output, houtput, ⟨arrivals.map fun a => linesOf (messageOf a), ?_, ?_⟩, fun hall => ?_⟩
  · rw [hlines, List.flatMap_def]
  · refine List.forall₂_map_right_iff.mpr (List.forall₂_same.mpr fun a ha => ?_)
    obtain ⟨text, htext⟩ := htexts a ha
    obtain ⟨first, others, hfirst, hread⟩ := exists_lines_written htext
    rw [messageOf_of_written htext]
    exact ⟨text, first, others, htext, rfl, hfirst, hread⟩
  · have hsingle : ∀ a ∈ arrivals, '\n' ∉ (messageOf a).toList := by
      rintro ⟨run, r⟩ ha
      obtain ⟨text, htext⟩ := htexts _ ha
      obtain ⟨w, hw, rfl, hr⟩ := exists_worker_of_arrive h ha
      rw [messageOf_of_written htext]
      exact hall w hw r hr text htext
    refine ⟨?_, fun w hw => ?_⟩
    · rw [outputLines_of_single hlines hsingle]
      refine List.forall₂_map_right_iff.mpr (List.forall₂_same.mpr fun a ha => ?_)
      obtain ⟨text, htext⟩ := htexts a ha
      exact ⟨by rw [messageOf_of_written htext]; exact htext,
        runOf?_messageOf htext (hsingle a ha)⟩
    · have hown := filter_of_arrive h hworkers.nodup hw
      have hmem : ∀ a ∈ w.records.map (w.run, ·), a ∈ arrivals := fun a ha =>
        List.mem_of_mem_filter (hown ▸ ha)
      obtain ⟨own, hrun, howned⟩ := exists_outputOf fun a ha => htexts a (hmem a ha)
      refine ⟨own, hrun, ?_⟩
      rw [linesOfRun_of_single htexts hlines hsingle, hown,
        outputLines_of_single howned fun a ha => hsingle a (hmem a ha)]

/-- A message without placeholders. -/
def plainRecord (message : String) : LogRecord where
  name := "gitarena"
  level := "INFO"
  template := message
  arguments := []
  seconds := 1700000000
  millis := 123

theorem written_plainRecord (message run : String) :
    (plainRecord message).written run = .ok ((plainRecord message).header run ++ message) := rfl

theorem newline_notMem_plainRecord {message : String} (h : '\n' ∉ message.toList)
    (run : RunNumber) : '\n' ∉ ((plainRecord message).header run.text ++ message).toList := by
  have hheader : '\n' ∉ ((plainRecord message).header run.text).toList :=
    LogRecord.newline_notMem_header (by simp [plainRecord]) (by simp [plainRecord]) run
  simp [hheader, h]

/-- The number of a worker. -/
def firstRun : RunNumber := ⟨"0123abcd", rfl, List.all_eq_true.mp rfl⟩

/-- The number of another worker. -/
def secondRun : RunNumber := ⟨"89abcdef", rfl, List.all_eq_true.mp rfl⟩

/-- Two workers in turn. -/
theorem two_workers_told_apart :
    let workers := [⟨firstRun, [plainRecord "Running doctor check...", plainRecord "100 %"]⟩,
      ⟨secondRun, [plainRecord "Database initialized successfully."]⟩]
    let arrivals := [(firstRun, plainRecord "Running doctor check..."),
      (secondRun, plainRecord "Database initialized successfully."),
      (firstRun, plainRecord "100 %")]
    Workers workers ∧ SingleLines workers ∧ Arrive workers arrivals ∧
      ∃ output, outputOf arrivals = .ok output ∧
        (outputLines output).map runOf? =
          [some "0123abcd", some "89abcdef", some "0123abcd"] ∧
        ∀ w ∈ workers, ∃ own, outputOf (w.records.map (w.run, ·)) = .ok own ∧
          linesOfRun w.run output = outputLines own := by
  intro workers arrivals
  have hplain : ∀ w ∈ workers, ∀ r ∈ w.records,
      ∃ message, r = plainRecord message ∧ '\n' ∉ message.toList := by
    simp only [workers, List.forall_mem_cons]
    exact ⟨⟨⟨_, rfl, by decide⟩, ⟨_, rfl, by decide⟩, nofun⟩, ⟨⟨_, rfl, by decide⟩, nofun⟩, nofun⟩
  have hworkers : Workers workers := by
    refine ⟨by decide, fun w hw r hr => ?_⟩
    obtain ⟨message, rfl, -⟩ := hplain w hw r hr
    exact ⟨_, written_plainRecord message w.run.text⟩
  have hsingle : SingleLines workers := by
    intro w hw r hr text htext
    obtain ⟨message, rfl, hbreak⟩ := hplain w hw r hr
    obtain rfl := Except.ok.inj ((written_plainRecord message w.run.text).symm.trans htext)
    exact newline_notMem_plainRecord hbreak w.run
  have harrive : Arrive workers arrivals :=
    @Arrive.next [] _ _ _ _ _ (@Arrive.next [_] _ _ _ _ _ (@Arrive.next [] _ _ _ _ _
      (.done (by simp))))
  obtain ⟨output, houtput, -, happart⟩ := single_lines_told_apart hworkers harrive
  obtain ⟨hlines, hown⟩ := happart hsingle
  have hread : List.Forall₂ (· = ·) (arrivals.map (some ·.1.text))
      ((outputLines output).map runOf?) := by
    rw [List.forall₂_map_left_iff, List.forall₂_map_right_iff]
    exact hlines.imp fun _ _ hline => hline.2.symm
  rw [List.forall₂_eq_eq_eq] at hread
  exact ⟨hworkers, hsingle, harrive, output, houtput, hread.symm, hown⟩

/-- A warning with the text of a database error, which has three lines. -/
def queryRecord : LogRecord where
  name := "gitarena.services.stats_service"
  level := "WARNING"
  template := "Store query %s failed: %s"
  arguments := [.text "user.count", .text ("(builtins.Exception) no such table: users\n" ++
    "[SQL: SELECT 1]\n(Background on this error at: https://sqlalche.me/e/21/e3q8)")]
  seconds := 1700000000
  millis := 123

/-- The lines of the message of `queryRecord`. -/
def queryLines : List String :=
  ["Store query user.count failed: (builtins.Exception) no such table: users",
    "[SQL: SELECT 1]", "(Background on this error at: https://sqlalche.me/e/21/e3q8)"]

theorem fill_queryRecord :
    Template.fill queryRecord.template queryRecord.arguments =
      .ok ("\n".intercalate queryLines) := by
  apply eq_ok_of_toOption
  decide +kernel

theorem linesOf_queryLines : linesOf ("\n".intercalate queryLines) = queryLines := by
  have hjoined : "\n".intercalate queryLines =
      "Store query user.count failed: (builtins.Exception) no such table: users" ++ "\n" ++
        "[SQL: SELECT 1]" ++ "\n" ++
        "(Background on this error at: https://sqlalche.me/e/21/e3q8)" := rfl
  rw [hjoined, linesOf_append_newline, linesOf_append_newline, linesOf_of_single (by decide),
    linesOf_of_single (by decide), linesOf_of_single (by decide)]
  rfl

/-- The header of `queryRecord` stands on the first line of its message only. -/
theorem linesOf_queryRecord (run : RunNumber) :
    ∃ text first, queryRecord.written run.text = .ok text ∧
      linesOf text = first :: queryLines.tail ∧ runOf? first = some run.text := by
  have hwritten : queryRecord.written run.text =
      .ok (queryRecord.header run.text ++ "\n".intercalate queryLines) :=
    LogRecord.written_eq_ok_iff.mpr ⟨_, fill_queryRecord, rfl⟩
  have hheader := LogRecord.newline_notMem_header (r := queryRecord) (by decide) (by decide) run
  obtain ⟨first, others, hlines, hread⟩ := exists_lines_written hwritten
  refine ⟨_, first, hwritten, ?_, hread⟩
  rw [linesOf_append hheader, linesOf_queryLines] at hlines ⊢
  obtain ⟨rfl, rfl⟩ := List.cons_eq_cons.mp hlines
  rfl

/-- The second line of a message carries no number, and the lines of its worker are not all
found. -/
theorem second_line_without_run :
    let workers := [⟨firstRun, [queryRecord]⟩, ⟨secondRun, [plainRecord "100 %"]⟩]
    let arrivals := [(firstRun, queryRecord), (secondRun, plainRecord "100 %")]
    Workers workers ∧ Arrive workers arrivals ∧
      ∃ output own, outputOf arrivals = .ok output ∧
        outputOf [(firstRun, queryRecord)] = .ok own ∧
        (outputLines output).map runOf? =
          [some "0123abcd", none, none, some "89abcdef"] ∧
        linesOfRun firstRun output ≠ outputLines own := by
  intro workers arrivals
  obtain ⟨text, first, htext, hlines, hread⟩ := linesOf_queryRecord firstRun
  have hplain := written_plainRecord "100 %" secondRun.text
  have hwritten : ∀ a ∈ arrivals, ∃ text, a.2.written a.1.text = .ok text := by
    simp [arrivals, htext, hplain]
  have hworkers : Workers workers := ⟨by decide, by simp [workers, htext, hplain]⟩
  have harrive : Arrive workers arrivals :=
    @Arrive.next [] _ _ _ _ _ (@Arrive.next [_] _ _ _ _ _ (.done (by simp)))
  have hquery : messageOf (firstRun, queryRecord) = text := messageOf_of_written htext
  have hsingle : '\n' ∉ (messageOf (secondRun, plainRecord "100 %")).toList := by
    rw [messageOf_of_written hplain]
    exact newline_notMem_plainRecord (by decide) secondRun
  have hlast := runOf?_messageOf hplain hsingle
  have hothers : queryLines.tail.map runOf? = [none, none] := by decide
  have halone : ∀ a ∈ [(firstRun, queryRecord)], ∃ text, a.2.written a.1.text = .ok text :=
    List.forall_mem_singleton.mpr ⟨text, htext⟩
  obtain ⟨own, hown, hownLines⟩ := exists_outputOf halone
  obtain ⟨output, houtput, houtputLines⟩ := exists_outputOf hwritten
  have hown' : outputLines own = first :: queryLines.tail := by simp [hownLines, hquery, hlines]
  have houtput' : outputLines output =
      first :: (queryLines.tail ++ [messageOf (secondRun, plainRecord "100 %")]) := by
    simp [houtputLines, arrivals, hquery, hlines, linesOf_of_single hsingle]
  have hnumbers : (outputLines output).map runOf? =
      [some "0123abcd", none, none, some "89abcdef"] := by
    rw [houtput', List.map_cons, List.map_append, hread, hothers, List.map_singleton, hlast]
    rfl
  refine ⟨hworkers, harrive, output, own, houtput, hown, hnumbers, fun hsame => ?_⟩
  -- The worker wrote three lines, but its number stands on one line of the output.
  have hcount : (linesOfRun firstRun output).length =
      ((outputLines output).map runOf?).countP (· = some firstRun.text) := by
    rw [linesOfRun, ← List.countP_eq_length_filter, List.countP_map]
    rfl
  rw [hsame, hown', hnumbers, List.length_cons] at hcount
  exact absurd hcount (by decide)

end ForgeDashboard
