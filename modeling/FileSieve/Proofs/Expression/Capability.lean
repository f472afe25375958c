import FileSieve.Builtin
import FileSieve.Expression.Evaluation
import FileSieve.Proofs.Expression.Item

/-!
# Declared capabilities are sufficient

An expression reads from a subject what its operands declare to read, and nothing else.  So two
subjects that agree on the capabilities of an expression (`Subject.AgreesOn`) are treated alike:
the same operands are asked in the same order, with the same value in the end.

There are three steps.  An evaluation depends on the subject only through what the operands of the
expression say about it (`Evaluation.ofItems_congr`); what a built-in operand says depends only on
what it declares (`Builtin.eval_congr`); and an expression needs whatever one of its operands
declares, also an operand deep inside a group that is never asked (`Expression.needs_iff`).
-/

namespace FileSieve

variable {α ρ : Type}

/-- Whether two subjects give the same answer where the given information is asked for. -/
def Subject.AgreesOn (c : Capability) (s t : Subject) : Prop :=
  match c with
  | .name => s.name = t.name
  | .path => s.path = t.path
  | .fileType => s.fileType = t.fileType
  | .fileMode => s.fileMode = t.fileMode
  | .modTime => s.modTime = t.modTime
  | .size => s.size = t.size
  | .xattr => s.xattr = t.xattr

/-! ## What an expression needs -/

section Needs

variable [Operand α ρ]

lemma Item.needs_iff {c : Capability} {x : Item α} :
    x.needs c = true ↔ ∃ a ∈ x.operands, c ∈ Operand.capabilities a := by
  induction x using Item.induction with
  | operator op => simp [needs, operands]
  | operand a => simp [needs, operands, Operand.needs]
  | group items ih =>
    simp only [needs, operands, sequenceNeeds_iff, mem_sequenceOperands]
    constructor
    · rintro ⟨x, hx, hneeds⟩
      obtain ⟨a, ha, hc⟩ := (ih x hx).mp hneeds
      exact ⟨a, ⟨x, hx, ha⟩, hc⟩
    · rintro ⟨a, ⟨x, hx, ha⟩, hc⟩
      exact ⟨x, hx, (ih x hx).mpr ⟨a, ha, hc⟩⟩

namespace Expression

variable {e : Expression α} {c : Capability}

/-- An expression needs what its operands declare, at every depth. -/
lemma needs_iff : e.needs c = true ↔ ∃ a ∈ e.operands, c ∈ Operand.capabilities a := by
  -- the items of an expression are those of a group
  have hgroup : (Item.group e.items).needs c = true ↔
      ∃ a ∈ (Item.group e.items).operands, c ∈ Operand.capabilities a := Item.needs_iff
  simpa only [needs, operands, Item.needs, Item.operands] using hgroup

lemma mem_capabilities : c ∈ e.capabilities ↔ e.needs c = true := by
  simp [capabilities, Capability.mem_all]

lemma capabilities_pairwise :
    e.capabilities.Pairwise fun c d => c.ctorIdx < d.ctorIdx := by
  have hall : Capability.all.Pairwise fun c d => c.ctorIdx < d.ctorIdx := by decide
  exact hall.sublist List.filter_sublist

end Expression

end Needs

/-! ## What an evaluation depends on -/

namespace Evaluation

variable [Operand α ρ] {s t : Subject} {items : List (Item α)}

lemma ofItems_congr_of_forall (h : ∀ x ∈ items, ofItem s x = ofItem t x) (p : Pending) :
    ofItems s p items = ofItems t p items := by
  induction items generalizing p with
  | nil => rfl
  | cons x items ih =>
    obtain ⟨hx, hitems⟩ := List.forall_mem_cons.mp h
    simp only [ofItems, hx, ih hitems]

/-- An item comes to the same on two subjects if its operands do. -/
lemma ofItem_congr {x : Item α}
    (h : ∀ a ∈ x.operands, Operand.eval a s = Operand.eval a t) : ofItem s x = ofItem t x := by
  induction x using Item.induction with
  | operator op => rfl
  | operand a => simp [ofItem, h a (by simp [Item.operands])]
  | group items ih =>
    refine ofItems_congr_of_forall (fun x hx => ih x hx fun a ha => h a ?_) {}
    exact Item.mem_sequenceOperands.mpr ⟨x, hx, ha⟩

lemma ofItems_congr (h : ∀ a ∈ Item.sequenceOperands items, Operand.eval a s = Operand.eval a t)
    (p : Pending) : ofItems s p items = ofItems t p items := by
  refine ofItems_congr_of_forall (fun x hx => ofItem_congr fun a ha => h a ?_) p
  exact Item.mem_sequenceOperands.mpr ⟨x, hx, ha⟩

end Evaluation

/-! ## What the built-in operands declare -/

/-- A built-in operand says the same of subjects that agree on what it declares. -/
lemma Builtin.eval_congr {a : Builtin} {s t : Subject}
    (h : ∀ c ∈ a.capabilities, Subject.AgreesOn c s t) : a.eval s = a.eval t := by
  cases a with
  | pattern raw regex =>
    have hname : s.name = t.name := h .name (by simp [capabilities])
    cases regex with
    | none => rfl
    | some regex => simp [eval, hname]
  | fileType raw kind =>
    have hfileType : s.fileType = t.fileType := h .fileType (by simp [capabilities])
    cases kind with
    | none => rfl
    | some kind => simp [eval, hfileType]
  | newer raw instant =>
    have hmodTime : s.modTime = t.modTime := h .modTime (by simp [capabilities])
    cases instant with
    | none => rfl
    | some instant => simp [eval, hmodTime]
  | size bound raw count =>
    have hfileType : s.fileType = t.fileType := h .fileType (by simp [capabilities])
    have hsize : s.size = t.size := h .size (by simp [capabilities])
    cases count with
    | none => rfl
    | some count => simp [eval, hfileType, hsize]

namespace Expression

lemma evaluate_congr (e : Expression Builtin) {s t : Subject}
    (h : ∀ c ∈ e.capabilities, Subject.AgreesOn c s t) : e.evaluate s = e.evaluate t := by
  refine Evaluation.ofItems_congr (fun a ha => Builtin.eval_congr fun c hc => h c ?_) {}
  exact mem_capabilities.mpr (needs_iff.mpr ⟨a, ha, hc⟩)

/-- **Declared capabilities are sufficient.**  Subjects that agree on the capabilities of an
expression over the built-in operands are treated alike, whatever else they answer.  Over any
operands, the capabilities of an expression are those that an operand of it declares, once each and
in the order of their declaration. -/
theorem capabilities_suffice :
    (∀ (e : Expression Builtin) (s t : Subject),
      (∀ c ∈ e.capabilities, Subject.AgreesOn c s t) →
        e.eval s = e.eval t ∧ e.calls s = e.calls t) ∧
    ∀ {α ρ : Type} [Operand α ρ] (e : Expression α),
      (∀ c, e.needs c = true ↔ ∃ a ∈ e.operands, c ∈ Operand.capabilities a) ∧
        (∀ c, c ∈ e.capabilities ↔ ∃ a ∈ e.operands, c ∈ Operand.capabilities a) ∧
        e.capabilities.Pairwise fun c d => c.ctorIdx < d.ctorIdx := by
  constructor
  · intro e s t h
    have hevaluate := e.evaluate_congr h
    constructor
    · rw [eval, eval, hevaluate]
    · rw [calls, calls, hevaluate]
  · intro α ρ _ e
    exact ⟨fun c => needs_iff, fun c => mem_capabilities.trans needs_iff, capabilities_pairwise⟩

/-- An expression that needs the size of a file also where it asks for the kind only. -/
def largeFile : Expression Builtin where
  items :=
    [.operator .not,
      .group [.operand (.fileType "l" (some .symlink)), .operator .or,
        .operand (.fileType "d" (some .dir))],
      .operator .and, .operand (.size .larger "1K" (some 1024))]

/-- A file of which only kind and size are known. -/
def bareFile : Subject where
  fileType := some .file
  size := some 2048

/-- A file of which more is known than `largeFile` needs. -/
def knownFile : Subject where
  name := some "a.log"
  path := some "/var/a.log"
  fileType := some .file
  fileMode := some 0o644
  modTime := some ⟨1709164800, 0⟩
  size := some 2048

theorem capabilities_suffice_largeFile :
    Registry.builtins.parse "!(type=l || type=d) && file-larger=1K" = .ok largeFile ∧
      (∀ c ∈ largeFile.capabilities, Subject.AgreesOn c bareFile knownFile) ∧
      largeFile.eval bareFile = largeFile.eval knownFile ∧
      largeFile.calls bareFile = largeFile.calls knownFile := by
  have hparse : Registry.builtins.parse "!(type=l || type=d) && file-larger=1K" =
      .ok largeFile := by rfl
  have hcapabilities : largeFile.capabilities = [.fileType, .size] := by decide
  have hagrees : ∀ c ∈ largeFile.capabilities, Subject.AgreesOn c bareFile knownFile := by
    rw [hcapabilities]
    simp [Subject.AgreesOn, bareFile, knownFile]
  exact ⟨hparse, hagrees, capabilities_suffice.1 largeFile bareFile knownFile hagrees⟩

end Expression

end FileSieve
