import Mathlib.Data.List.Induction
import FileSieve.Registry.Shared

/-!
# Runs with registries

A run starts without registries; it makes some, copies handles, registers and removes names through
whichever handles it has, and reads texts.  `Session.run` does so operation by operation.  What one
operation can do is said twice, by what becomes of the handles (`handles_step`) and by what becomes
of the registry behind a handle (`registry_step`); what holds of all later sessions follows by
`run_induction`.
-/

namespace FileSieve

variable {α ρ : Type}

/-! ## Registries behind handles -/

namespace Registries

variable (rs : Registries α)

lemma get_create (h : Handle) : rs.create.1.get h = rs.get h := by
  simp only [create, get, Array.getElem?_push]
  split
  · rename_i hindex
    simp [hindex]
  · rfl

lemma size_create : rs.create.1.tables.size = rs.tables.size + 1 :=
  Array.size_push _

lemma get_modify {h : Handle} (hindex : h.index < rs.tables.size) (f : Registry α → Registry α)
    (g : Handle) :
    (⟨rs.tables.modify h.index f⟩ : Registries α).get g =
      if h = g then f (rs.get g) else rs.get g := by
  simp only [get, Array.getElem?_modify]
  by_cases hg : h = g
  · subst hg
    simp [hindex]
  · have hne : h.index ≠ g.index := fun hcon => hg (congrArg Handle.mk hcon)
    simp [hne, hg]

end Registries

/-! ## Runs -/

/-- What can be done with handles on registries.  The handles of a run are numbered in the order in
which they are obtained. -/
inductive Operation (α : Type)
  /-- Makes a registry, and gives a handle on it. -/
  | create
  /-- Gives a second handle on the registry of handle `k`. -/
  | clone (k : ℕ)
  /-- Registers a factory through handle `k`. -/
  | register (k : ℕ) (name : String) (factory : Factory α)
  /-- Takes a name out through handle `k`. -/
  | remove (k : ℕ) (name : String)
  /-- Reads a text with the registry of handle `k`, and keeps the expression if there is one. -/
  | parse (k : ℕ) (text : String)

namespace Operation

/-- Whether the operation gives a handle. -/
def givesHandle : Operation α → Bool
  | create => true
  | clone _ => true
  | _ => false

/-- The handle that the operation uses. -/
def handle? : Operation α → Option ℕ
  | create => none
  | clone k => some k
  | register k _ _ => some k
  | remove k _ => some k
  | parse k _ => some k

/-- Whether operations use only handles that have been obtained before them, where `n` handles have
been obtained at the start. -/
def wellScoped (n : ℕ) : List (Operation α) → Bool
  | [] => true
  | op :: rest => op.handle?.all (· < n) && wellScoped (n + if op.givesHandle then 1 else 0) rest

/-- The operations that register or remove a name through one of the given handles. -/
def Writes (through : ℕ → Prop) (name : String) : Operation α → Prop
  | register k other _ => through k ∧ other = name
  | remove k other => through k ∧ other = name
  | _ => False

end Operation

/-- The handles and the expressions that a run has led to, and the registries behind the handles. -/
structure Session (α : Type) where
  /-- The registries. -/
  registries : Registries α := {}
  /-- The handles, in the order in which they were obtained. -/
  handles : List Handle := []
  /-- The expressions that have been read, in order. -/
  expressions : List (Expression α) := []

namespace Session

variable [Operand α ρ]

/-- The session after an operation, which has to use a handle of the session. -/
def step (s : Session α) : Operation α → Option (Session α)
  | .create =>
    let (registries, h) := s.registries.create
    some { s with registries, handles := s.handles ++ [h] }
  | .clone k =>
    s.handles[k]?.map fun h => { s with handles := s.handles ++ [s.registries.clone h] }
  | .register k name factory =>
    s.handles[k]?.map fun h => { s with registries := s.registries.register h name factory }
  | .remove k name =>
    s.handles[k]?.map fun h => { s with registries := (s.registries.remove h name).1 }
  | .parse k text =>
    s.handles[k]?.map fun h =>
      { s with expressions := s.expressions ++ ((s.registries.get h).parse text).toOption.toList }

/-- The session that operations lead to. -/
def run (ops : List (Operation α)) : Option (Session α) :=
  ops.foldlM step {}

end Session

/-! ## What a step does -/

namespace Session

open Operation

variable [Operand α ρ] {ops more : List (Operation α)} {op : Operation α} {s s' : Session α}
  {g : Handle}

/-- A step makes a registry with a handle of its own, copies a handle, or leaves the handles and the
number of registries as they are. -/
lemma handles_step (h : s.step op = some s') :
    (op = .create ∧ s'.handles = s.handles ++ [⟨s.registries.tables.size⟩] ∧
      s'.registries.tables.size = s.registries.tables.size + 1) ∨
    (∃ k g, op = .clone k ∧ s.handles[k]? = some g ∧ s'.handles = s.handles ++ [g] ∧
      s'.registries.tables.size = s.registries.tables.size) ∨
    (op.givesHandle = false ∧ s'.handles = s.handles ∧
      s'.registries.tables.size = s.registries.tables.size) := by
  cases op with
  | create =>
    cases h
    exact .inl ⟨rfl, rfl, s.registries.size_create⟩
  | clone k =>
    obtain ⟨g, hk, rfl⟩ := Option.map_eq_some_iff.mp h
    exact .inr (.inl ⟨k, g, rfl, hk, rfl, rfl⟩)
  | register | remove =>
    obtain ⟨g, -, rfl⟩ := Option.map_eq_some_iff.mp h
    exact .inr (.inr ⟨rfl, rfl, Array.size_modify⟩)
  | parse =>
    obtain ⟨g, -, rfl⟩ := Option.map_eq_some_iff.mp h
    exact .inr (.inr ⟨rfl, rfl, rfl⟩)

lemma handles_mono_step (h : s.step op = some s') : s.handles <+: s'.handles := by
  obtain ⟨-, hs, -⟩ | ⟨_, _, -, -, hs, -⟩ | ⟨-, hs, -⟩ := handles_step h
  · exact ⟨_, hs.symm⟩
  · exact ⟨_, hs.symm⟩
  · exact ⟨[], by simp [hs]⟩

lemma expressions_mono_step (h : s.step op = some s') : s.expressions <+: s'.expressions := by
  cases op with
  | create =>
    cases h
    exact List.prefix_rfl
  | clone | register | remove =>
    obtain ⟨g, -, rfl⟩ := Option.map_eq_some_iff.mp h
    exact List.prefix_rfl
  | parse =>
    obtain ⟨g, -, rfl⟩ := Option.map_eq_some_iff.mp h
    exact List.prefix_append _ _

lemma getElem?_of_prefix {handles later : List Handle} (h : handles <+: later) {k : ℕ}
    (hk : handles[k]? = some g) : later[k]? = some g := by
  obtain ⟨rest, rfl⟩ := h
  rwa [List.getElem?_append_left (List.getElem?_eq_some_iff.mp hk).1]

/-- The handles whose registries have been made. -/
def Bounded (s : Session α) : Prop :=
  ∀ g ∈ s.handles, g.index < s.registries.tables.size

lemma Bounded.get_modify (hs : s.Bounded) {later : List Handle} (hlater : s.handles <+: later)
    {k : ℕ} {h : Handle} (hk : s.handles[k]? = some h) (f : Registry α → Registry α) (g : Handle) :
    (later[k]? = some g ∧
      (⟨s.registries.tables.modify h.index f⟩ : Registries α).get g = f (s.registries.get g)) ∨
    (later[k]? ≠ some g ∧
      (⟨s.registries.tables.modify h.index f⟩ : Registries α).get g = s.registries.get g) := by
  rw [s.registries.get_modify (hs h (List.mem_of_getElem? hk)) f g, getElem?_of_prefix hlater hk]
  by_cases hg : h = g
  · simp [hg]
  · simp [hg]

/-- A step changes a registry by registering or by removing, through a handle on it.  The handles
may be looked up among those of any later session. -/
lemma registry_step (h : s.step op = some s') (hs : s.Bounded) {later : List Handle}
    (hlater : s.handles <+: later) (g : Handle) :
    ((∀ name, ¬ op.Writes (later[·]? = some g) name) ∧
      s'.registries.get g = s.registries.get g) ∨
    (∃ k name factory, op = .register k name factory ∧ later[k]? = some g ∧
      s'.registries.get g = (s.registries.get g).register name factory) ∨
    (∃ k name, op = .remove k name ∧ later[k]? = some g ∧
      s'.registries.get g = (s.registries.get g).remove name) := by
  cases op with
  | create =>
    cases h
    exact .inl ⟨fun _ => id, s.registries.get_create g⟩
  | clone | parse =>
    obtain ⟨-, -, rfl⟩ := Option.map_eq_some_iff.mp h
    exact .inl ⟨fun _ => id, rfl⟩
  | register k name factory =>
    obtain ⟨_, hk, rfl⟩ := Option.map_eq_some_iff.mp h
    obtain ⟨hg, hget⟩ | ⟨hg, hget⟩ := hs.get_modify hlater hk (·.register name factory) g
    · exact .inr (.inl ⟨k, name, factory, rfl, hg, hget⟩)
    · exact .inl ⟨fun _ hcon => hg hcon.1, hget⟩
  | remove k name =>
    obtain ⟨_, hk, rfl⟩ := Option.map_eq_some_iff.mp h
    obtain ⟨hg, hget⟩ | ⟨hg, hget⟩ := hs.get_modify hlater hk (·.remove name) g
    · exact .inr (.inr ⟨k, name, rfl, hg, hget⟩)
    · exact .inl ⟨fun _ hcon => hg hcon.1, hget⟩

/-! ## What a run does -/

lemma run_nil : run ([] : List (Operation α)) = some {} := rfl

lemma run_concat_eq_some_iff :
    run (ops ++ [op]) = some s' ↔ ∃ s, run ops = some s ∧ s.step op = some s' := by
  simp [run, List.foldlM_append, Option.bind_eq_some_iff]

/-- What a session has and every step keeps, the sessions after it have. -/
lemma run_induction {motive : List (Operation α) → Session α → Prop} (hrun : run ops = some s)
    (nil : motive [] s)
    (concat : ∀ more s op s', run (ops ++ more) = some s → motive more s →
      s.step op = some s' → motive (more ++ [op]) s')
    (h : run (ops ++ more) = some s') : motive more s' := by
  induction more using List.reverseRecOn generalizing s' with
  | nil =>
    rw [List.append_nil, hrun, Option.some.injEq] at h
    rwa [← h]
  | append_singleton more op ih =>
    rw [← List.append_assoc] at h
    obtain ⟨s₁, hs₁, hstep⟩ := run_concat_eq_some_iff.mp h
    exact concat more s₁ op s' hs₁ (ih hs₁) hstep

lemma handles_mono (hrun : run ops = some s) (h : run (ops ++ more) = some s') :
    s.handles <+: s'.handles :=
  run_induction (motive := fun _ s' => s.handles <+: s'.handles) hrun List.prefix_rfl
    (fun _ _ _ _ _ hprefix hstep => hprefix.trans (handles_mono_step hstep)) h

lemma expressions_mono (hrun : run ops = some s) (h : run (ops ++ more) = some s') :
    s.expressions <+: s'.expressions :=
  run_induction (motive := fun _ s' => s.expressions <+: s'.expressions) hrun List.prefix_rfl
    (fun _ _ _ _ _ hprefix hstep => hprefix.trans (expressions_mono_step hstep)) h

/-- What is parsed is kept by all later sessions. -/
lemma getElem?_expressions_of_parse (hrun : run ops = some s) {k : ℕ}
    (hk : s.handles[k]? = some g) {text : String} {e : Expression α}
    (he : (s.registries.get g).parse text = .ok e)
    (h : run (ops ++ .parse k text :: more) = some s') :
    s'.expressions[s.expressions.length]? = some e := by
  have hstep : s.step (.parse k text) =
      some { s with expressions := s.expressions ++ [e] } := by
    simp [step, hk, he, Except.toOption]
  rw [List.append_cons] at h
  have hprefix := expressions_mono (run_concat_eq_some_iff.mpr ⟨s, hrun, hstep⟩) h
  obtain ⟨rest, hrest⟩ := hprefix
  simp [← hrest]

/-- A step is possible if the handle that it uses has been obtained. -/
lemma exists_step (s : Session α) (op : Operation α)
    (hop : op.handle?.all (· < s.handles.length) = true) :
    ∃ s', s.step op = some s' ∧
      s'.handles.length = s.handles.length + if op.givesHandle then 1 else 0 := by
  cases op with
  | create => exact ⟨_, rfl, by simp [givesHandle]⟩
  | clone k | register k | remove k | parse k =>
    have hk : k < s.handles.length := by simpa [handle?] using hop
    simp [step, List.getElem?_eq_getElem hk, givesHandle]

lemma exists_run (h : wellScoped 0 ops = true) : ∃ s : Session α, run ops = some s := by
  suffices ∀ (s : Session α), wellScoped s.handles.length ops = true →
      ∃ s', ops.foldlM step s = some s' from this {} h
  clear h
  intro s h
  induction ops generalizing s with
  | nil => exact ⟨s, rfl⟩
  | cons op rest ih =>
    rw [wellScoped, Bool.and_eq_true] at h
    obtain ⟨s₁, hstep, hlength⟩ := s.exists_step op h.1
    rw [← hlength] at h
    obtain ⟨s', hs'⟩ := ih s₁ h.2
    exact ⟨s', by rw [List.foldlM_cons, hstep]; exact hs'⟩

end Session

end FileSieve
