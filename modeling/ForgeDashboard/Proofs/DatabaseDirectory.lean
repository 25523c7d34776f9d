import ForgeDashboard.Database.Directory
import Mathlib.Data.List.Induction
import Mathlib.Tactic.Common

/-!
# The directory of the database

The directory of a database file is asked for before anything on the way to it, and whatever is
missing is made from the top down.  Nothing else is made, and nothing is taken away; so what is new
afterwards are the places that a beginning of the path leads to, as far as a further name follows
it.  A double dot undoes a step, but the directory stepped into is there by then.

Text and tree meet in the names of a path.  On the side of the text a beginning that ends before a
slash is followed piece by piece; on the side of the tree the same place is the end of one of the
stages of the path.

## Main definitions

* `Path.stages`, `FileSystem.place` : the paths that a path leads through, and where they end.
* `FileSystem.Contains`, `FileSystem.Accepts` : all of that is there, or may be made.
* `FileSystem.missingAlong`, `FileSystem.GrowsBy` : what is missing, and a tree that has gained it.
* `Location.follow`, `FileSystem.OnTheWay` : where a text leads, and the places on the way to a
  file.

## Main results

* `run_makeDirectories` : a path is made with all that is missing on its way.
* `exists_mem_stages_parent_iff` : the stages of the path of a directory, told by the text.
* `database_directory_made` : the directory of a database is made with what it needs, and only that.
-/

namespace ForgeDashboard

/-! ### Stages of a path -/

namespace Path

/-- The paths that a path leads through, itself the last one. -/
def stages : Path → List Path
  | start root => [start root]
  | child holder name => holder.stages ++ [child holder name]

variable {p q : Path} {root : String} {names : List String}

theorem mem_stages_self (p : Path) : p ∈ p.stages := by
  cases p <;> simp [stages]

theorem foldl_child_concat (p : Path) (names : List String) (name : String) :
    (names ++ [name]).foldl child p = child (names.foldl child p) name := by
  simp

/-- The stages of a path are spelled by the beginnings of its names. -/
theorem mem_stages_foldl_child :
    q ∈ (names.foldl child (start root)).stages ↔
      ∃ front, front <+: names ∧ front.foldl child (start root) = q := by
  induction names using List.reverseRecOn with
  | nil => simp [stages, eq_comm]
  | append_singleton names name ih =>
    rw [foldl_child_concat, stages, List.mem_append, ih, List.mem_singleton]
    constructor
    · rintro (⟨front, hfront, rfl⟩ | rfl)
      · exact ⟨front, hfront.trans (List.prefix_append names [name]), rfl⟩
      · exact ⟨names ++ [name], List.prefix_rfl, foldl_child_concat ..⟩
    · rintro ⟨front, hfront, rfl⟩
      rcases List.prefix_concat_iff.mp hfront with rfl | hfront
      · exact .inr (foldl_child_concat ..)
      · exact .inl ⟨front, hfront, rfl⟩

theorem parent_foldl_child :
    (names.foldl child (start root)).parent = names.dropLast.foldl child (start root) := by
  rcases List.eq_nil_or_concat names with rfl | ⟨names, name, rfl⟩
  · rfl
  · rw [List.concat_eq_append, foldl_child_concat, List.dropLast_concat, parent]

end Path

namespace FileSystem

open ForgeDashboard.Path (start child stages)

variable {fs between after : FileSystem} {p holder : Path} {name : String}
  {made later : List Location}

/-! ### Places along a path -/

/-- The place that a path leads to. -/
def place (fs : FileSystem) : Path → Location
  | .start root => (fs.origin root).1
  | .child holder name => (fs.place holder).enter name

/-- All places along a path are directories. -/
def Contains (fs : FileSystem) (p : Path) : Prop := ∀ q ∈ p.stages, fs.place q ∈ fs.directories

/-- Nothing stands against a directory at the end of a path and on the way there: no path is
refused, and where a directory is missing the place is neither refused nor taken by another file. -/
def Accepts (fs : FileSystem) (p : Path) : Prop :=
  ∀ q ∈ p.stages, fs.pathRefusal q = none ∧
    (fs.place q ∉ fs.directories →
      fs.placeRefusal (fs.place q) = none ∧ fs.place q ∉ fs.files)

instance : Decidable (fs.Accepts p) := inferInstanceAs (Decidable (∀ _ ∈ _, _))

theorem contains_start (fs : FileSystem) (root : String) : fs.Contains (start root) := by
  intro q hq
  rw [List.mem_singleton.mp hq]
  exact (fs.origin root).2

theorem contains_child_iff :
    fs.Contains (child holder name) ↔
      fs.Contains holder ∧ fs.place (child holder name) ∈ fs.directories := by
  simp [Contains, stages, or_imp, forall_and]

theorem Contains.place_mem (h : fs.Contains p) : fs.place p ∈ fs.directories :=
  h p p.mem_stages_self

theorem Accepts.pathRefusal_eq (h : fs.Accepts p) : fs.pathRefusal p = none :=
  (h p p.mem_stages_self).1

theorem Accepts.of_child (h : fs.Accepts (child holder name)) : fs.Accepts holder :=
  fun q hq => h q (List.mem_append_left _ hq)

/-- A path along directories is found. -/
theorem find_of_contains (h : fs.Contains p) : fs.find p = .ok ⟨fs.place p, h.place_mem⟩ := by
  induction p with
  | start root => rfl
  | child holder name ih =>
    obtain ⟨hholder, hplace⟩ := contains_child_iff.mp h
    rw [find, ih hholder]
    exact dif_pos hplace

/-- The only obstacle on a path that nothing stands against is a directory that is missing. -/
theorem find_of_not_contains (haccepts : fs.Accepts p) (h : ¬fs.Contains p) :
    fs.find p = .error .missing := by
  induction p with
  | start root => exact absurd (fs.contains_start root) h
  | child holder name ih =>
    by_cases hholder : fs.Contains holder
    · have hplace : fs.place (child holder name) ∉ fs.directories :=
        fun hplace => h (contains_child_iff.mpr ⟨hholder, hplace⟩)
      obtain ⟨hrefusal, hfile⟩ := (haccepts _ (child holder name).mem_stages_self).2 hplace
      have hobstacle : fs.obstacle (fs.place (child holder name)) = .missing := by
        rw [obstacle, hrefusal, if_neg hfile]
        rfl
      rw [find, find_of_contains hholder, ← hobstacle]
      exact dif_neg hplace
    · rw [find, ih haccepts.of_child hholder]
      rfl

theorem isDirectory_of_contains (hpath : fs.pathRefusal p = none) (h : fs.Contains p) :
    fs.isDirectory p = true := by
  rw [isDirectory, hpath, find_of_contains h]
  rfl

/-! ### Trees that grow -/

/-- A tree has gained some directories, and is otherwise as it was. -/
structure GrowsBy (fs : FileSystem) (made : List Location) (after : FileSystem) : Prop where
  directories_eq : after.directories = fs.directories ++ made
  files_eq : after.files = fs.files
  workingDirectory_eq : after.workingDirectory = fs.workingDirectory
  pathRefusal_eq : after.pathRefusal = fs.pathRefusal
  placeRefusal_eq : after.placeRefusal = fs.placeRefusal

namespace GrowsBy

theorem refl (fs : FileSystem) : fs.GrowsBy [] fs :=
  ⟨(List.append_nil _).symm, rfl, rfl, rfl, rfl⟩

theorem trans (h : fs.GrowsBy made between) (hlater : between.GrowsBy later after) :
    fs.GrowsBy (made ++ later) after where
  directories_eq := by rw [hlater.directories_eq, h.directories_eq, List.append_assoc]
  files_eq := hlater.files_eq.trans h.files_eq
  workingDirectory_eq := hlater.workingDirectory_eq.trans h.workingDirectory_eq
  pathRefusal_eq := hlater.pathRefusal_eq.trans h.pathRefusal_eq
  placeRefusal_eq := hlater.placeRefusal_eq.trans h.placeRefusal_eq

theorem mem_directories_iff (h : fs.GrowsBy made after) {l : Location} :
    l ∈ after.directories ↔ l ∈ fs.directories ∨ l ∈ made := by
  rw [h.directories_eq, List.mem_append]

/-- Paths lead where they led. -/
theorem place_eq (h : fs.GrowsBy made after) (p : Path) : after.place p = fs.place p := by
  induction p with
  | start root =>
    simp only [place, origin, h.workingDirectory_eq]
    split_ifs <;> rfl
  | child holder name ih => rw [place, place, ih]

theorem accepts (h : fs.GrowsBy made after) (haccepts : fs.Accepts p) : after.Accepts p := by
  intro q hq
  obtain ⟨hpath, hmissing⟩ := haccepts q hq
  rw [h.place_eq, h.pathRefusal_eq, h.placeRefusal_eq, h.files_eq, h.mem_directories_iff]
  exact ⟨hpath, fun hplace => hmissing (not_or.mp hplace).1⟩

end GrowsBy

/-! ### What is missing along a path -/

/-- The directories that are missing along a path, each of them once. -/
def missingAlong (fs : FileSystem) : Path → List Location
  | .start _ => []
  | .child holder name =>
    if fs.place (.child holder name) ∈ fs.directories ++ fs.missingAlong holder then
      fs.missingAlong holder
    else fs.missingAlong holder ++ [fs.place (.child holder name)]

theorem mem_missingAlong_iff {l : Location} :
    l ∈ fs.missingAlong p ↔ l ∉ fs.directories ∧ ∃ q ∈ p.stages, fs.place q = l := by
  induction p with
  | start root =>
    have horigin := (fs.contains_start root).place_mem
    simp only [missingAlong, stages, List.mem_singleton, exists_eq_left, List.not_mem_nil,
      false_iff, not_and]
    rintro hl rfl
    exact hl horigin
  | child holder name ih =>
    simp only [missingAlong, stages, List.mem_append, List.mem_singleton, or_and_right, exists_or,
      exists_eq_left, and_or_left, ← ih]
    split_ifs with hplace
    · -- The end of the path is there already, or is on its way a second time.
      constructor
      · exact .inl
      · rintro (hl | ⟨hl, rfl⟩)
        · exact hl
        · exact hplace.resolve_left hl
    · rw [not_or] at hplace
      rw [List.mem_append, List.mem_singleton, eq_comm (a := l)]
      exact or_congr_right ⟨fun hl => ⟨hl ▸ hplace.1, hl⟩, And.right⟩

theorem nodup_missingAlong (fs : FileSystem) (p : Path) : (fs.missingAlong p).Nodup := by
  induction p with
  | start root => exact List.nodup_nil
  | child holder name ih =>
    rw [missingAlong]
    split_ifs with hplace
    · exact ih
    · rw [List.mem_append, not_or] at hplace
      exact List.nodup_append.mpr ⟨ih, List.pairwise_singleton _ _, fun l hl other hother hsame =>
        hplace.2 (List.mem_singleton.mp hother ▸ hsame ▸ hl)⟩

theorem missingAlong_eq_nil (h : fs.Contains p) : fs.missingAlong p = [] := by
  rw [List.eq_nil_iff_forall_not_mem]
  intro l hl
  obtain ⟨hmissing, q, hq, rfl⟩ := mem_missingAlong_iff.mp hl
  exact hmissing (h q hq)

/-- Once what is missing has been made, the path is there. -/
theorem GrowsBy.contains (h : fs.GrowsBy (fs.missingAlong p) after) : after.Contains p := by
  intro q hq
  rw [h.place_eq, h.mem_directories_iff, mem_missingAlong_iff]
  by_cases hplace : fs.place q ∈ fs.directories
  · exact .inl hplace
  · exact .inr ⟨hplace, q, hq, rfl⟩

/-! ### Requests for directories -/

theorem create_of_contains (hpath : fs.pathRefusal p = none) (h : fs.Contains p) :
    fs.create p = .error (SystemError.alreadyThere.fault p) := by
  cases p with
  | start root => simp only [create, hpath]
  | child holder name =>
    obtain ⟨hholder, hplace⟩ := contains_child_iff.mp h
    simp only [create, hpath, find_of_contains hholder]
    exact dif_pos (.inl hplace)

theorem create_of_missing (haccepts : fs.Accepts (child holder name)) (h : ¬fs.Contains holder) :
    fs.create (child holder name) = .error (SystemError.missing.fault (child holder name)) := by
  simp only [create, haccepts.pathRefusal_eq, find_of_not_contains haccepts.of_child h]

/-- A free place in a directory becomes a directory. -/
theorem exists_create (haccepts : fs.Accepts (child holder name)) (hholder : fs.Contains holder)
    (hplace : fs.place (child holder name) ∉ fs.directories) :
    ∃ after, fs.create (child holder name) = .ok after ∧
      fs.GrowsBy [fs.place (child holder name)] after := by
  obtain ⟨hrefusal, hfile⟩ := (haccepts _ (child holder name).mem_stages_self).2 hplace
  have hfree : ¬((fs.place holder).enter name ∈ fs.directories ∨
      (fs.place holder).enter name ∈ fs.files) := not_or.mpr ⟨hplace, hfile⟩
  have hrefusal : fs.placeRefusal ((fs.place holder).enter name) = none := hrefusal
  simp only [create, haccepts.pathRefusal_eq, find_of_contains hholder, dif_neg hfree, hrefusal]
  exact ⟨_, rfl, rfl, rfl, rfl, rfl, rfl⟩

/-! ### Making directories -/

variable {onMissing : Fault → ExceptT Fault (StateM FileSystem) Unit}

theorem run_makeDirectory (fs : FileSystem) (p : Path)
    (onMissing : Fault → ExceptT Fault (StateM FileSystem) Unit) :
    (makeDirectory p onMissing).run.run fs =
      match fs.create p with
      | .ok after => (.ok (), after)
      | .error f =>
        if f.kind = .missingFile then (onMissing f).run.run fs
        else if f.kind.isSystem && fs.isDirectory p then (.ok (), fs)
        else (.error f, fs) := by
  show (match fs.create p with
    | .ok after => set after
    | .error f =>
      if f.kind = .missingFile then onMissing f
      else if f.kind.isSystem && fs.isDirectory p then pure ()
      else throw f : ExceptT Fault (StateM FileSystem) Unit).run.run fs = _
  rcases fs.create p with f | after
  · dsimp only
    split_ifs <;> rfl
  · rfl

/-- A directory that is there will do. -/
theorem run_makeDirectory_of_contains (hpath : fs.pathRefusal p = none) (h : fs.Contains p) :
    (makeDirectory p onMissing).run.run fs = (.ok (), fs) := by
  rw [run_makeDirectory, create_of_contains hpath h]
  have hfound : fs.isDirectory p = true := isDirectory_of_contains hpath h
  simp [SystemError.fault, SystemError.alreadyThere, FaultKind.isSystem, hfound]

/-- The caller decides about a directory that is missing on the way. -/
theorem run_makeDirectory_of_missing (haccepts : fs.Accepts (child holder name))
    (h : ¬fs.Contains holder) :
    (makeDirectory (child holder name) onMissing).run.run fs =
      (onMissing (SystemError.missing.fault (child holder name))).run.run fs := by
  rw [run_makeDirectory, create_of_missing haccepts h]
  exact if_pos rfl

/-- In a directory that is there, one more is made unless it is there, too. -/
theorem exists_run_makeDirectory (haccepts : fs.Accepts (child holder name))
    (hholder : fs.Contains holder)
    (onMissing : Fault → ExceptT Fault (StateM FileSystem) Unit) :
    ∃ after, (makeDirectory (child holder name) onMissing).run.run fs = (.ok (), after) ∧
      fs.GrowsBy (if fs.place (child holder name) ∈ fs.directories then []
        else [fs.place (child holder name)]) after := by
  split_ifs with hplace
  · exact ⟨fs, run_makeDirectory_of_contains haccepts.pathRefusal_eq
      (contains_child_iff.mpr ⟨hholder, hplace⟩), .refl fs⟩
  · obtain ⟨after, hcreate, hgrows⟩ := exists_create haccepts hholder hplace
    refine ⟨after, ?_, hgrows⟩
    rw [run_makeDirectory, hcreate]

theorem run_bind_of_ok {α β : Type} {first : ExceptT Fault (StateM FileSystem) α}
    {next : α → ExceptT Fault (StateM FileSystem) β} {a : α}
    (h : first.run.run fs = (.ok a, between)) :
    (first >>= next).run.run fs = (next a).run.run between := by
  simp only [ExceptT.run_bind, StateT.run_bind, h]
  rfl

/-- **A path is made with all that is missing on its way.**  The induction follows the requests: if
the holder is there the next directory is made in it, otherwise the holder is made first. -/
theorem run_makeDirectories (haccepts : fs.Accepts p) :
    ∃ after, (makeDirectories p).run.run fs = (.ok (), after) ∧
      fs.GrowsBy (fs.missingAlong p) after := by
  induction p with
  | start root =>
    exact ⟨fs, run_makeDirectory_of_contains haccepts.pathRefusal_eq (fs.contains_start root),
      .refl fs⟩
  | child holder name ih =>
    by_cases hholder : fs.Contains holder
    · obtain ⟨after, hrun, hgrows⟩ := exists_run_makeDirectory haccepts hholder _
      refine ⟨after, hrun, ?_⟩
      simpa only [missingAlong, missingAlong_eq_nil hholder, List.append_nil, List.nil_append]
        using hgrows
    · -- The holder comes first, with all that it needs; then the same request finds it there.
      obtain ⟨between, hrun, hgrows⟩ := ih haccepts.of_child
      obtain ⟨after, hagain, hlast⟩ :=
        exists_run_makeDirectory (hgrows.accepts haccepts) hgrows.contains throw
      refine ⟨after, ?_, ?_⟩
      · rw [makeDirectories, run_makeDirectory_of_missing haccepts hholder, run_bind_of_ok hrun,
          hagain]
      · rw [hgrows.place_eq, hgrows.directories_eq] at hlast
        rw [missingAlong]
        split_ifs at hlast ⊢
        · simpa only [List.append_nil] using hgrows.trans hlast
        · exact hgrows.trans hlast

theorem run_makeDirectories_of_contains (hpath : fs.pathRefusal p = none) (h : fs.Contains p) :
    (makeDirectories p).run.run fs = (.ok (), fs) := by
  cases p <;> exact run_makeDirectory_of_contains hpath h

end FileSystem

/-! ### The names in a text -/

/-- Does a piece of a path lead to another place? -/
def IsName (piece : List Char) : Prop := piece ≠ [] ∧ piece ≠ ['.']

instance (piece : List Char) : Decidable (IsName piece) := inferInstanceAs (Decidable (_ ∧ _))

/-- Does a text name anything between its slashes? -/
def HasName (text : List Char) : Prop := ∃ piece ∈ text.splitOn '/', IsName piece

/-- The place that a text leads to, piece by piece. -/
def Location.follow (l : Location) (text : List Char) : Location :=
  (text.splitOn '/').foldl
    (fun l piece => if IsName piece then l.enter (String.ofList piece) else l) l

/-- The places on the way to a file with a relative path: the beginning before one of its slashes
leads there, and something is still named behind that. -/
def FileSystem.OnTheWay (fs : FileSystem) (file : String) (l : Location) : Prop :=
  ∃ before after, file.toList = before ++ '/' :: after ∧ HasName after ∧
    fs.workingDirectory.follow before = l

namespace Path

variable {text : List Char} {front : List String}

theorem rootOf_eq_empty {s : String} (h : s.toList.head? ≠ some '/') : rootOf s = "" := by
  unfold rootOf
  generalize s.toList = cs at h
  rcases cs with _ | ⟨c, cs⟩
  · rfl
  · have hc : c ≠ '/' := by simpa using h
    simp [hc]

theorem namesOf_eq (text : List Char) :
    namesOf (String.ofList text) =
      ((text.splitOn '/').filter (IsName ·)).map String.ofList := by
  have hpiece (piece : List Char) :
      (String.ofList piece != "" && String.ofList piece != ".") = decide (IsName piece) := by
    have hsame (s : String) : String.ofList piece = s ↔ piece = s.toList := by
      rw [← String.toList_inj, String.toList_ofList]
    rw [Bool.eq_iff_iff, Bool.and_eq_true, bne_iff_ne, bne_iff_ne, decide_eq_true_iff, IsName,
      ne_eq, ne_eq, hsame, hsame]
    rfl
  rw [namesOf, String.toList_ofList, splitWhere_eq_splitOnP, List.filter_map]
  simp only [Function.comp_def, hpiece]
  rfl

theorem follow_eq_foldl (l : Location) (text : List Char) :
    l.follow text = (namesOf (String.ofList text)).foldl .enter l := by
  rw [namesOf_eq, List.foldl_map, List.foldl_filter]
  simp [Location.follow]

theorem namesOf_ne_nil_iff : namesOf (String.ofList text) ≠ [] ↔ HasName text := by
  simp [namesOf_eq, HasName]

theorem namesOf_append_slash (before after : List Char) :
    namesOf (String.ofList (before ++ '/' :: after)) =
      namesOf (String.ofList before) ++ namesOf (String.ofList after) := by
  simp only [namesOf_eq, List.splitOn_append_cons_self, List.filter_append, List.map_append]

/-- Wherever the pieces of a text are divided, a slash stands. -/
theorem exists_slash {pieces others : List (List Char)} (h : text.splitOn '/' = pieces ++ others)
    (hpieces : pieces ≠ []) (hothers : others ≠ []) :
    ∃ before after, text = before ++ '/' :: after ∧ before.splitOn '/' = pieces ∧
      after.splitOn '/' = others := by
  obtain ⟨first, pieces, rfl⟩ := List.exists_cons_of_ne_nil hpieces
  induction text generalizing first pieces with
  | nil =>
    obtain ⟨-, hnone⟩ : first = [] ∧ pieces ++ others = [] := by simpa [eq_comm] using h
    exact absurd (List.append_eq_nil_iff.mp hnone).2 hothers
  | cons c text ih =>
    rw [List.splitOn_cons_eq_if_modifyHead] at h
    split_ifs at h with hc
    · obtain ⟨rfl, hrest⟩ := List.cons_eq_cons.mp h
      rw [beq_iff_eq.mp hc]
      rcases pieces with _ | ⟨second, pieces⟩
      · exact ⟨[], text, rfl, rfl, hrest⟩
      · obtain ⟨before, after, rfl, hbefore, hafter⟩ := ih second pieces hrest (by simp)
        exact ⟨'/' :: before, after, rfl, by simp [List.splitOn_cons_eq_if_modifyHead, hbefore],
          hafter⟩
    · rcases hsplit : text.splitOn '/' with _ | ⟨part, parts⟩
      · exact absurd hsplit (List.splitOn_ne_nil '/' text)
      · rw [hsplit] at h
        obtain ⟨rfl, hrest⟩ := List.cons_eq_cons.mp h
        obtain ⟨before, after, rfl, hbefore, hafter⟩ :=
          ih part pieces (by rw [hsplit, hrest]; rfl) (by simp)
        exact ⟨c :: before, after, rfl,
          by rw [List.splitOn_cons_eq_if_modifyHead, if_neg hc, hbefore]; rfl, hafter⟩

/-- The names before a slash leave those behind it over. -/
theorem namesOf_prefix_dropLast {before after : List Char} (h : HasName after) :
    namesOf (String.ofList before) <+:
      (namesOf (String.ofList (before ++ '/' :: after))).dropLast := by
  rw [namesOf_append_slash, List.dropLast_append_of_ne_nil (namesOf_ne_nil_iff.mpr h)]
  exact List.prefix_append _ _

/-- Some first names of a text that leave some name over stand before one of its slashes. -/
theorem exists_slash_of_prefix_dropLast (hfront : front ≠ [])
    (h : front <+: (namesOf (String.ofList text)).dropLast) :
    ∃ before after, text = before ++ '/' :: after ∧ HasName after ∧
      namesOf (String.ofList before) = front := by
  obtain ⟨rest, hrest⟩ := h
  rcases List.eq_nil_or_concat (namesOf (String.ofList text)) with hnone | ⟨names, last, hnames⟩
  · simp [hnone, hfront] at hrest
  rw [hnames, List.concat_eq_append, List.dropLast_concat] at hrest
  rw [← hrest, List.concat_eq_append, List.append_assoc, namesOf_eq,
    List.map_eq_append_iff] at hnames
  obtain ⟨pieces, others, hfilter, rfl, hothers⟩ := hnames
  obtain ⟨pieces, others, hpieces, rfl, rfl⟩ := List.filter_eq_append_iff.mp hfilter
  obtain ⟨before, after, rfl, rfl, rfl⟩ := exists_slash hpieces (by rintro rfl; simp at hfront)
    (by rintro rfl; simp at hothers)
  refine ⟨before, after, rfl, ?_, namesOf_eq before⟩
  rw [← namesOf_ne_nil_iff, namesOf_eq, hothers]
  simp

end Path

namespace FileSystem

open ForgeDashboard.Path (start child)

variable {fs : FileSystem} {file : String} {l : Location}

theorem place_foldl_child (fs : FileSystem) (names : List String) (p : Path) :
    fs.place (names.foldl child p) = names.foldl .enter (fs.place p) := by
  induction names generalizing p with
  | nil => rfl
  | cons name names ih => exact ih (child p name)

/-- **The stages of the path of a directory, told by the text.**  For a relative file they end in
the working directory and at the places on the way to the file. -/
theorem exists_mem_stages_parent_iff (hrelative : file.toList.head? ≠ some '/') :
    (∃ q ∈ (Path.ofText file).parent.stages, fs.place q = l) ↔
      l = fs.workingDirectory ∨ fs.OnTheWay file l := by
  have hnames : Path.namesOf file = Path.namesOf (String.ofList file.toList) := by simp
  have hplace (front : List String) : fs.place (front.foldl child (start "")) =
      front.foldl .enter fs.workingDirectory := place_foldl_child fs front (start "")
  rw [Path.ofText, Path.rootOf_eq_empty hrelative, Path.parent_foldl_child, hnames]
  simp only [Path.mem_stages_foldl_child]
  constructor
  · rintro ⟨_, ⟨front, hfront, rfl⟩, rfl⟩
    rw [hplace]
    rcases eq_or_ne front [] with rfl | hne
    · exact .inl rfl
    · obtain ⟨before, after, hfile, hafter, rfl⟩ :=
        Path.exists_slash_of_prefix_dropLast hne hfront
      exact .inr ⟨before, after, hfile, hafter, Path.follow_eq_foldl ..⟩
  · rintro (rfl | ⟨before, after, hfile, hafter, rfl⟩)
    · exact ⟨_, ⟨[], List.nil_prefix, rfl⟩, rfl⟩
    · rw [hfile, Path.follow_eq_foldl, ← hplace]
      exact ⟨_, ⟨_, Path.namesOf_prefix_dropLast hafter, rfl⟩, rfl⟩

/-- What is missing along the path of a directory are the places on the way that are missing. -/
theorem mem_missingAlong_parent_iff (hrelative : file.toList.head? ≠ some '/') :
    l ∈ fs.missingAlong (Path.ofText file).parent ↔ l ∉ fs.directories ∧ fs.OnTheWay file l := by
  rw [mem_missingAlong_iff, exists_mem_stages_parent_iff hrelative]
  refine and_congr_right fun hl => or_iff_right ?_
  rintro rfl
  exact hl fs.workingDirectory_mem

end FileSystem

/-! ### Preparing a database -/

/-- Only the directory of a file is made, and only for an address that can be read. -/
theorem run_prepareDatabase (fs : FileSystem) (url : String) :
    (prepareDatabase url).run.run fs =
      match (DatabaseAddress.parse url).map databaseFile? with
      | .error f => (.error f, fs)
      | .ok none => (.ok ⟨false⟩, fs)
      | .ok (some file) =>
        let made := (makeDirectories (Path.ofText file).parent).run.run fs
        (made.1.map fun _ => ⟨false⟩, made.2) := by
  rw [prepareDatabase]
  rcases DatabaseAddress.parse url with f | address
  · rfl
  · have hread : (liftM (Except.ok address : Except Fault DatabaseAddress) :
        ExceptT Fault (StateM FileSystem) DatabaseAddress).run.run fs = (.ok address, fs) := rfl
    rw [FileSystem.run_bind_of_ok hread, Except.map]
    rcases databaseFile? address with _ | file
    · rfl
    · dsimp only
      rcases hmade : (makeDirectories (Path.ofText file).parent).run.run fs with ⟨f | ⟨⟩, after⟩
      · simp only [ExceptT.run_bind, StateT.run_bind, hmade]
        rfl
      · rw [FileSystem.run_bind_of_ok hmade]
        rfl

theorem databaseFile?_eq_none {address : DatabaseAddress}
    (h : address.database = none ∨ address.database = some "" ∨
      address.database = some ":memory:") : databaseFile? address = none := by
  rcases h with h | h | h <;> simp [databaseFile?, h]

theorem databaseFile?_eq_some {address : DatabaseAddress} {file : String}
    (h : address.database = some file) (hempty : file ≠ "") (hmemory : file ≠ ":memory:") :
    databaseFile? address = some file := by
  simp [databaseFile?, h, hempty, hmemory]

/-- **The directory of a database is made with what it needs, and only that.**  An address that
cannot be read fails and changes nothing, and one without a file changes nothing.  For a file with a
relative path, whatever the tree holds, as long as nothing stands against the path of its directory,
that directory is there afterwards.  New are exactly the missing places on the way to the file, each
of them once, also those left again by a double dot; nothing else has changed, and a second call
changes nothing and gives the same. -/
theorem database_directory_made (fs : FileSystem) (url : String) :
    (∀ f, DatabaseAddress.parse url = .error f →
      (prepareDatabase url).run.run fs = (.error f, fs)) ∧
    ∀ address, DatabaseAddress.parse url = .ok address →
      (address.database = none ∨ address.database = some "" ∨
          address.database = some ":memory:" →
        (prepareDatabase url).run.run fs = (.ok ⟨false⟩, fs)) ∧
      ∀ file, address.database = some file → file ≠ "" → file ≠ ":memory:" →
        file.toList.head? ≠ some '/' → fs.Accepts (Path.ofText file).parent →
        ∃ after made, (prepareDatabase url).run.run fs = (.ok ⟨false⟩, after) ∧
          after.isDirectory (Path.ofText file).parent = true ∧
          fs.GrowsBy made after ∧ made.Nodup ∧
          (∀ l, l ∈ made ↔ l ∉ fs.directories ∧ fs.OnTheWay file l) ∧
          (prepareDatabase url).run.run after = (.ok ⟨false⟩, after) := by
  refine ⟨fun f hparse => ?_, fun address hparse => ⟨fun hnone => ?_, ?_⟩⟩
  · rw [run_prepareDatabase, hparse]
    rfl
  · rw [run_prepareDatabase, hparse, Except.map, databaseFile?_eq_none hnone]
  intro file hfile hempty hmemory hrelative haccepts
  have hrun (before : FileSystem) := run_prepareDatabase before url
  simp only [hparse, Except.map, databaseFile?_eq_some hfile hempty hmemory] at hrun
  obtain ⟨after, hmade, hgrows⟩ := FileSystem.run_makeDirectories haccepts
  have hpath := (hgrows.accepts haccepts).pathRefusal_eq
  refine ⟨after, fs.missingAlong (Path.ofText file).parent, ?_,
    FileSystem.isDirectory_of_contains hpath hgrows.contains, hgrows, fs.nodup_missingAlong _,
    fun l => FileSystem.mem_missingAlong_parent_iff hrelative, ?_⟩
  · rw [hrun, hmade]
  · rw [hrun, FileSystem.run_makeDirectories_of_contains hpath hgrows.contains]

/-- A directory is made that the path leaves at once, and two more behind it; one of their names is
written with a percent sign, and the query is not part of the path. -/
theorem directory_left_again_made :
    let url := "sqlite:///data/../store//%6dain/./forge.db?mode=rw"
    let file := "data/../store//main/./forge.db"
    let made : List Location := [⟨["", "data"]⟩, ⟨["", "store"]⟩, ⟨["", "store", "main"]⟩]
    (∃ address, DatabaseAddress.parse url = .ok address ∧ address.database = some file) ∧
      file ≠ "" ∧ file ≠ ":memory:" ∧ file.toList.head? ≠ some '/' ∧
      FileSystem.bare.Accepts (Path.ofText file).parent ∧
      ∃ after, (prepareDatabase url).run.run .bare = (.ok ⟨false⟩, after) ∧
        after.isDirectory (Path.ofText file).parent = true ∧ FileSystem.bare.GrowsBy made after ∧
        (∀ l, l ∈ made ↔ l ∉ FileSystem.bare.directories ∧ FileSystem.bare.OnTheWay file l) ∧
        (prepareDatabase url).run.run after = (.ok ⟨false⟩, after) ∧
        (prepareDirectory [] url).toOption.map (·.made) =
          some [⟨["data"]⟩, ⟨["store"]⟩, ⟨["store", "main"]⟩] := by
  intro url file made
  have hread : (DatabaseAddress.parse url).toOption.bind (·.database) = some file := by
    decide +kernel
  obtain ⟨address, haddress, hdatabase⟩ :
      ∃ address, DatabaseAddress.parse url = .ok address ∧ address.database = some file := by
    generalize DatabaseAddress.parse url = parsed at hread
    rcases parsed with f | address
    · cases hread
    · exact ⟨address, rfl, hread⟩
  have hempty : file ≠ "" := by decide
  have hmemory : file ≠ ":memory:" := by decide
  have hrelative : file.toList.head? ≠ some '/' := by decide
  have haccepts : FileSystem.bare.Accepts (Path.ofText file).parent := by decide +kernel
  have hdirectories : ((prepareDatabase url).run.run .bare).2.directories =
      FileSystem.bare.directories ++ made := by decide +kernel
  obtain ⟨after, gained, hrun, hdirectory, hgrows, -, hgained, hagain⟩ :=
    ((database_directory_made .bare url).2 address haddress).2 file hdatabase hempty hmemory
      hrelative haccepts
  obtain rfl : gained = made := by
    rw [hrun, hgrows.directories_eq] at hdirectories
    exact List.append_cancel_left hdirectories
  exact ⟨⟨address, haddress, hdatabase⟩, hempty, hmemory, hrelative, haccepts, after, hrun,
    hdirectory, hgrows, hgained, hagain, by decide +kernel⟩

end ForgeDashboard
