import FileSieve.FileInfo
import FileSieve.Proofs.Expression.Calls
import FileSieve.Proofs.Expression.Capability
import FileSieve.Proofs.Outcome

/-!
# Loading metadata on demand

`FileInfo.forExpression` loads the metadata of a path only for an expression that reads something
from them.  It does so exactly for the expressions with an operand, at some depth, that declares one
of four capabilities (`Expression.ReadsMetadata`); for any other expression it takes no notice of
the file system.

For an expression over the built-in operands nothing is lost.  The path and its name, which are all
that is known without metadata, are the same with them (`agreesOn_of_path_eq`), and declared
capabilities are sufficient, so the expression has the same value as if the metadata had been
loaded: `FileInfo.forExpression_agrees`.  Nor does it end the program then, because what is asked is
declared (`Expression.asks_subset`) and only the question for the time can end it.
-/

namespace FileSieve

variable {α ρ : Type}

/-! ## Questions -/

/-- The built-in operands declare what they ask. -/
lemma Builtin.asks_subset (a : Builtin) (s : Subject) : a.asks s ⊆ a.capabilities := by
  cases a with
  | pattern | fileType | newer => exact List.Subset.refl _
  | size bound raw count =>
    rw [asks, capabilities]
    split <;> simp

namespace Expression

variable [Operand α ρ]

/-- Whether an operand, at some depth, declares a capability that takes metadata. -/
def ReadsMetadata (e : Expression α) : Prop :=
  ∃ a ∈ e.operands, ∃ c ∈ Operand.capabilities a, c ∈ [.fileType, .fileMode, .modTime, .size]

lemma needsMetadata_iff {e : Expression α} : e.needsMetadata = true ↔ e.ReadsMetadata := by
  have hmetadata : ∀ c : Capability,
      c.needsMetadata = true ↔ c ∈ [.fileType, .fileMode, .modTime, .size] := by
    intro c
    cases c <;> simp [Capability.needsMetadata]
  simp only [needsMetadata, List.any_eq_true, Bool.and_eq_true, needs_iff, hmetadata]
  constructor
  · rintro ⟨c, -, hc, a, ha, hneeds⟩
    exact ⟨a, ha, c, hneeds, hc⟩
  · rintro ⟨a, ha, c, hneeds, hc⟩
    exact ⟨c, c.mem_all, hc, a, ha, hneeds⟩

/-- Where nothing reads metadata, no capability that is declared takes them. -/
lemma not_needsMetadata_of_mem_capabilities {e : Expression α} (h : ¬ e.ReadsMetadata)
    {c : Capability} (hc : c ∈ e.capabilities) : c.needsMetadata = false := by
  by_contra hmetadata
  refine h (needsMetadata_iff.mp (List.any_eq_true.mpr ⟨c, c.mem_all, ?_⟩))
  simpa [mem_capabilities.mp hc] using hmetadata

/-- An expression over the built-in operands asks no more than it declares. -/
lemma asks_subset (e : Expression Builtin) (s : Subject) : e.asks s ⊆ e.capabilities := by
  intro c hc
  obtain ⟨a, ha, hasks⟩ := List.mem_flatMap.mp hc
  have hoperand : a ∈ e.operands := (e.calls_sublist s).subset ha
  exact mem_capabilities.mpr (needs_iff.mpr ⟨a, hoperand, Builtin.asks_subset a s hasks⟩)

end Expression

namespace FileInfo

open Expression

/-! ## Loading -/

variable {fs : FileSystem} {path : FilePath} {info : FileInfo}

lemma stat_eq_ok (h : stat fs path = .ok info) :
    ∃ metadata, info = { path, metadata := some metadata } := by
  rw [stat] at h
  cases hmetadata : fs.metadata path with
  | error reason => simp [hmetadata, Except.map] at h
  | ok metadata =>
    rw [hmetadata] at h
    cases h
    exact ⟨metadata, rfl⟩

/-- What takes no metadata is the same for all files with one path. -/
lemma agreesOn_of_path_eq {a b : FileInfo} (hpath : a.path = b.path) {c : Capability}
    (hc : c.needsMetadata = false) : Subject.AgreesOn c a.subject b.subject := by
  cases c with
  | name => simp [Subject.AgreesOn, subject, hpath]
  | path => simp [Subject.AgreesOn, subject, hpath]
  | xattr => rfl
  | fileType | fileMode | modTime | size => simp [Capability.needsMetadata] at hc

section

variable [Operand α ρ] {e : Expression α}

lemma forExpression_of_readsMetadata (h : e.ReadsMetadata) :
    forExpression fs path e = stat fs path := by
  rw [forExpression, if_pos (needsMetadata_iff.mpr h)]

lemma forExpression_of_not_readsMetadata (h : ¬ e.ReadsMetadata) :
    forExpression fs path e = .ok { path } := by
  rw [forExpression, if_neg fun hneeds => h (needsMetadata_iff.mp hneeds)]

/-- Metadata are there in the end if and only if the expression reads them. -/
lemma metadata_isSome_iff (h : forExpression fs path e = .ok info) :
    info.metadata.isSome = true ↔ e.ReadsMetadata := by
  by_cases hreads : e.ReadsMetadata
  · rw [forExpression_of_readsMetadata hreads] at h
    obtain ⟨metadata, rfl⟩ := stat_eq_ok h
    simp [hreads]
  · rw [forExpression_of_not_readsMetadata hreads] at h
    cases h
    simp [hreads]

/-- Loading fails for an expression that reads metadata where there are none, for no other reason
than theirs. -/
lemma forExpression_eq_error_iff {reason : FileError} :
    forExpression fs path e = .error reason ↔
      e.ReadsMetadata ∧ fs.metadata path = .error reason := by
  by_cases hreads : e.ReadsMetadata
  · rw [forExpression_of_readsMetadata hreads, stat, map_eq_error_iff]
    exact (and_iff_right hreads).symm
  · rw [forExpression_of_not_readsMetadata hreads]
    simp [hreads]

/-- What is loaded for a path depends on what the file system answers for this path. -/
lemma forExpression_congr {fs' : FileSystem} (h : fs.metadata path = fs'.metadata path) :
    forExpression fs path e = forExpression fs' path e := by
  rw [forExpression, forExpression, stat, stat, h]

/-- Only for an expression that reads metadata there is a file system without an answer. -/
lemma exists_forExpression_eq_error_iff :
    (∃ fs path reason, forExpression fs path e = .error reason) ↔ e.ReadsMetadata := by
  constructor
  · rintro ⟨fs, path, reason, h⟩
    by_contra hreads
    rw [forExpression_of_not_readsMetadata hreads] at h
    contradiction
  · intro hreads
    refine ⟨⟨fun _ => .error .notFound, fun _ => .error .notFound⟩, "", .notFound, ?_⟩
    rw [forExpression_of_readsMetadata hreads]
    rfl

/-- An expression ends the program on the files that have a time which is on no day of the calendar,
if it asks for that time; nothing else does. -/
lemma verdict_eq_error_iff {abort : Abort} :
    info.verdict e = .error abort ↔
      ∃ time, info.metadata.bind Metadata.modTime = some time ∧ time.isDated = false ∧
        .modTime ∈ e.asks info.subject ∧ abort = .undatedTime time := by
  rw [verdict, modTime]
  cases htime : info.metadata.bind Metadata.modTime with
  | none => simp
  | some time =>
    cases hdated : time.isDated with
    | false =>
      by_cases hasks : .modTime ∈ e.asks info.subject
      · simpa [hdated, hasks] using eq_comm
      · simp [hdated, hasks]
    | true => simp [hdated]

end

/-- What is known of a path without its metadata is enough for an expression that reads none. -/
lemma eval_of_not_readsMetadata {e : Expression Builtin} (h : ¬ e.ReadsMetadata) {a b : FileInfo}
    (hpath : a.path = b.path) : e.eval a.subject = e.eval b.subject := by
  have hagrees : ∀ c ∈ e.capabilities, Subject.AgreesOn c a.subject b.subject := by
    intro c hc
    exact agreesOn_of_path_eq hpath (not_needsMetadata_of_mem_capabilities h hc)
  rw [eval, eval, e.evaluate_congr hagrees]

/-- An expression that reads no metadata does not ask for the time of a file. -/
lemma verdict_of_not_readsMetadata {e : Expression Builtin} (h : ¬ e.ReadsMetadata)
    (info : FileInfo) : info.verdict e = .ok (e.eval info.subject) := by
  have hasks : .modTime ∉ e.asks info.subject := by
    intro htime
    have hdeclared := e.asks_subset info.subject htime
    exact absurd (not_needsMetadata_of_mem_capabilities h hdeclared) (by decide)
  rw [verdict]
  split
  · rfl
  · simp [hasks]

/-- **Loading on demand agrees with loading always.**  Where the metadata of a path can be loaded,
an expression over the built-in operands comes to the same without loading more than it reads, be
that a value or the end of the program.  Over any operands, metadata are loaded, which can fail,
exactly if an operand at some depth declares a capability that takes them. -/
theorem forExpression_agrees :
    (∀ (fs : FileSystem) (path : FilePath) (e : Expression Builtin) (info : FileInfo),
      stat fs path = .ok info →
        ∃ found, forExpression fs path e = .ok found ∧ found.verdict e = info.verdict e) ∧
    ∀ {α ρ : Type} [Operand α ρ] (e : Expression α),
      (∀ fs path,
        (e.ReadsMetadata → forExpression fs path e = stat fs path) ∧
          (¬ e.ReadsMetadata → forExpression fs path e = .ok { path }) ∧
          ∀ info, forExpression fs path e = .ok info →
            (info.metadata.isSome = true ↔ e.ReadsMetadata)) ∧
        ((∃ fs path reason, forExpression fs path e = .error reason) ↔ e.ReadsMetadata) := by
  constructor
  · intro fs path e info hstat
    by_cases hreads : e.ReadsMetadata
    · exact ⟨info, (forExpression_of_readsMetadata hreads).trans hstat, rfl⟩
    · obtain ⟨metadata, rfl⟩ := stat_eq_ok hstat
      refine ⟨_, forExpression_of_not_readsMetadata hreads, ?_⟩
      rw [verdict_of_not_readsMetadata hreads, verdict_of_not_readsMetadata hreads]
      exact congrArg Except.ok (eval_of_not_readsMetadata hreads rfl)
  · intro α ρ _ e
    refine ⟨fun fs path => ⟨?_, ?_, fun info => metadata_isSome_iff⟩,
      exists_forExpression_eq_error_iff⟩
    · exact forExpression_of_readsMetadata
    · exact forExpression_of_not_readsMetadata

/-- The metadata of a small file from after the last day of the calendar. -/
def noteMetadata : Metadata := ⟨.file, 0o644, some ⟨10000000000000, 0⟩, 2⟩

/-- A small file with its metadata, whose name is no text. -/
def note : FileInfo where
  path := ⟨("/tmp/note" : FilePath).bytes ++ [0xff]⟩
  metadata := some noteMetadata

/-- A file system with nothing but `note`. -/
def noteSystem : FileSystem where
  metadata path := if path = note.path then .ok noteMetadata else .error .notFound
  bytes path := if path = note.path then .ok ⟨#[104, 105]⟩ else .error .notFound

/-- An expression that reads names only. -/
def namedNote : Expression Builtin where
  items :=
    [.operator .not,
      .group [.operand (.pattern "log" (Regex.compile "log").toOption), .operator .or,
        .operand (.pattern "tmp" (Regex.compile "tmp").toOption)],
      .operator .and, .operand (.pattern "note" (Regex.compile "note").toOption)]

theorem forExpression_agrees_namedNote :
    Registry.builtins.parse "!(re=log || re=tmp) && re=note" = .ok namedNote ∧
      stat noteSystem note.path = .ok note ∧
      ¬ namedNote.ReadsMetadata ∧
      ∃ found, forExpression noteSystem note.path namedNote = .ok found ∧
        found.verdict namedNote = note.verdict namedNote := by
  have hparse : Registry.builtins.parse "!(re=log || re=tmp) && re=note" = .ok namedNote := by rfl
  have hstat : stat noteSystem note.path = .ok note := by decide
  have hreads : ¬ namedNote.ReadsMetadata := by
    rw [← needsMetadata_iff]
    decide
  exact ⟨hparse, hstat, hreads, forExpression_agrees.1 _ _ _ _ hstat⟩

end FileInfo

end FileSieve
