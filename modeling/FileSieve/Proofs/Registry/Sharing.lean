import Mathlib.Logic.Relation
import FileSieve.Proofs.Registry.Parsing
import FileSieve.Proofs.Registry.Session
import FileSieve.Proofs.Registry.Table

/-!
# Registries with several handles

The handles of a run that are connected by copying (`Shares`) are on one registry, and that registry
is a map in which the last writer wins: what it holds under a name is what the last operation on
that name, through any of these handles, has left there (`Latest`).  `Session.run_lastWriterWins`
says what follows for everything that a registry can be asked, and that registries made separately
have nothing to do with each other.

In the proofs the history of a run and the handles that it has led to stand side by side: two
numbers of handles are connected in the history if and only if the handles are equal (`shares_eq`),
so that a registry is found by its handle and needs no history.
-/

namespace FileSieve

variable {α ρ : Type}

/-! ## What a text depends on -/

/-- The names that a text asks a registry for. -/
def Token.Mentions (text name : String) : Prop :=
  ∃ tokens, scan text = .ok tokens ∧ .name name ∈ tokens

namespace Registry

variable {r r' : Registry α} {text : String}

lemma itemsOf_congr {tokens : List Token}
    (h : ∀ name, .name name ∈ tokens → r.find? name = r'.find? name) :
    (r.itemsOf tokens : Except (ExpressionError ρ) (List (Item α))) = r'.itemsOf tokens := by
  fun_induction itemsOf (ρ := ρ) r tokens with
  | case1 => rfl
  | case2 op rest ih =>
    rw [itemsOf, ih fun name hname => h name (List.mem_cons_of_mem _ hname)]
  | case3 name value rest hfind =>
    rw [h name List.mem_cons_self] at hfind
    simp only [itemsOf, hfind]
  | case4 name value rest factory hfind ih =>
    rw [h name List.mem_cons_self] at hfind
    simp only [itemsOf, hfind]
    rw [ih fun name hname => h name (List.mem_cons_of_mem _ (List.mem_cons_of_mem _ hname))]
  | case5 | case6 => simp_all [itemsOf]

lemma items_congr (h : ∀ name, Token.Mentions text name → r.find? name = r'.find? name) :
    (r.items text : Except (ExpressionError ρ) (List (Item α))) = r'.items text := by
  cases hscan : Token.scan text with
  | error e => simp only [items, hscan]
  | ok tokens =>
    simp only [items, hscan]
    exact itemsOf_congr fun name hname => h name ⟨tokens, hscan, hname⟩

lemma parse_congr [Operand α ρ]
    (h : ∀ name, Token.Mentions text name → r.find? name = r'.find? name) :
    r.parse text = r'.parse text := by
  rw [parse, parse, items_congr h]

/-! ## What a registry shows -/

/-- The registry answers as one in which `latest` tells the factory of each name. -/
structure Shows [Operand α ρ] (r : Registry α) (latest : String → Factory α → Prop) : Prop where
  /-- It contains the names that have a factory. -/
  contains_iff : ∀ name, r.contains name = true ↔ ∃ factory, latest name factory
  /-- It lists one operand for each of these names, in the order of their bytes, made by the factory
  of the name with the empty value. -/
  list : ∃ names : List String, names.Pairwise (fun a b => Text.bytes a < Text.bytes b) ∧
    (∀ name, name ∈ names ↔ ∃ factory, latest name factory) ∧
    List.Forall₂ (fun name a => ∃ factory, latest name factory ∧ a = factory name "") names r.list
  /-- The items of a text are made by the factories of its names. -/
  items_iff : ∀ text items,
    (r.items text : Except (ExpressionError ρ) (List (Item α))) = .ok items ↔
      ∃ tokens, Token.scan text = .ok tokens ∧ Token.Resolves latest tokens items
  /-- The expression of a text is built from these items. -/
  parse_iff : ∀ text e, r.parse text = .ok e ↔
    ∃ tokens items, Token.scan text = .ok tokens ∧ Token.Resolves latest tokens items ∧
      Expression.build items = .ok e

lemma items_eq_ok_iff {items : List (Item α)} :
    (r.items text : Except (ExpressionError ρ) (List (Item α))) = .ok items ↔
      ∃ tokens, Token.scan text = .ok tokens ∧
        Token.Resolves (fun name factory => r.find? name = some factory) tokens items := by
  rw [Registry.items]
  cases Token.scan text with
  | error e => simp
  | ok tokens => simp [itemsOf_eq_ok_iff]

lemma shows_find? [Operand α ρ] (r : Registry α) :
    r.Shows fun name factory => r.find? name = some factory where
  contains_iff _ := contains_iff
  list := ⟨r.names, r.pairwise_bytes_names, fun _ => mem_names_iff, r.forall₂_names_list⟩
  items_iff _ _ := items_eq_ok_iff
  parse_iff text e := by
    simp only [parse, bind_eq_ok_iff, items_eq_ok_iff]
    constructor
    · rintro ⟨items, ⟨tokens, hscan, hitems⟩, hbuild⟩
      exact ⟨tokens, items, hscan, hitems, hbuild⟩
    · rintro ⟨tokens, items, hscan, hitems, hbuild⟩
      exact ⟨items, ⟨tokens, hscan, hitems⟩, hbuild⟩

end Registry

/-! ## Histories -/

namespace Operation

/-- The operation `op` of the history gave the handle of number `n`. -/
def Gave (ops : List (Operation α)) (op : Operation α) (n : ℕ) : Prop :=
  ∃ before after, ops = before ++ op :: after ∧ before.countP givesHandle = n

/-- The handles that are connected by copying. -/
def Shares (ops : List (Operation α)) : ℕ → ℕ → Prop :=
  Relation.EqvGen fun i j => Gave ops (.clone i) j

/-- The last operation of the history with a property. -/
def IsLast (p : Operation α → Prop) (ops : List (Operation α)) (op : Operation α) : Prop :=
  ∃ before after, ops = before ++ op :: after ∧ p op ∧ ∀ later ∈ after, ¬ p later

/-- The last of the operations on a name, through handle `k` and the handles connected to it,
registered the given factory. -/
def Latest (ops : List (Operation α)) (k : ℕ) (name : String) (factory : Factory α) : Prop :=
  ∃ i, IsLast (Writes (Shares ops k) name) ops (.register i name factory)

variable {ops : List (Operation α)} {op x : Operation α}

lemma concat_eq_iff {before after : List (Operation α)} :
    ops ++ [op] = before ++ x :: after ↔
      (ops = before ∧ op = x ∧ after = []) ∨
        ∃ after', after = after' ++ [op] ∧ ops = before ++ x :: after' := by
  obtain rfl | ⟨after', last, rfl⟩ := after.eq_nil_or_concat
  · simp
  · rw [List.concat_eq_append, ← List.cons_append, ← List.append_assoc]
    constructor
    · intro h
      obtain ⟨rfl, hlast⟩ := List.append_inj' h rfl
      cases hlast
      exact .inr ⟨after', rfl, rfl⟩
    · rintro (⟨-, -, h⟩ | ⟨after'', h, rfl⟩)
      · simp at h
      · obtain ⟨rfl, hlast⟩ := List.append_inj' h rfl
        cases hlast
        simp

lemma gave_concat {n : ℕ} :
    Gave (ops ++ [op]) x n ↔ (op = x ∧ ops.countP givesHandle = n) ∨ Gave ops x n := by
  constructor
  · rintro ⟨before, after, h, hn⟩
    obtain ⟨rfl, rfl, -⟩ | ⟨after', -, rfl⟩ := concat_eq_iff.mp h
    · exact .inl ⟨rfl, hn⟩
    · exact .inr ⟨before, after', rfl, hn⟩
  · rintro (⟨rfl, hn⟩ | ⟨before, after, rfl, hn⟩)
    · exact ⟨ops, [], rfl, hn⟩
    · exact ⟨before, after ++ [op], by simp, hn⟩

lemma not_gave_nil {n : ℕ} : ¬ Gave [] x n := by
  rintro ⟨before, after, h, -⟩
  simp at h

lemma lt_countP_of_gave {n : ℕ} (hx : x.givesHandle = true) (h : Gave ops x n) :
    n < ops.countP givesHandle := by
  obtain ⟨before, after, rfl, rfl⟩ := h
  rw [List.countP_append, List.countP_cons_of_pos hx]
  omega

lemma isLast_concat {p : Operation α → Prop} :
    IsLast p (ops ++ [op]) x ↔ (p op ∧ op = x) ∨ (¬ p op ∧ IsLast p ops x) := by
  constructor
  · rintro ⟨before, after, h, hx, hlater⟩
    obtain ⟨rfl, rfl, -⟩ | ⟨after', rfl, rfl⟩ := concat_eq_iff.mp h
    · exact .inl ⟨hx, rfl⟩
    · refine .inr ⟨hlater op (by simp), before, after', rfl, hx, fun later hmem => ?_⟩
      exact hlater later (List.mem_append_left _ hmem)
  · rintro (⟨hop, rfl⟩ | ⟨hop, before, after, rfl, hx, hlater⟩)
    · exact ⟨ops, [], rfl, hop, by simp⟩
    · refine ⟨before, after ++ [op], by simp, hx, fun later hmem => ?_⟩
      obtain hmem | hmem := List.mem_append.mp hmem
      · exact hlater later hmem
      · rwa [List.mem_singleton.mp hmem]

lemma isLast_concat_of {p : Operation α → Prop} (h : p op) :
    IsLast p (ops ++ [op]) x ↔ op = x := by
  rw [isLast_concat]
  exact ⟨fun hx => hx.elim And.right fun hcon => absurd h hcon.1, fun hx => .inl ⟨h, hx⟩⟩

lemma isLast_concat_of_not {p : Operation α → Prop} (h : ¬ p op) :
    IsLast p (ops ++ [op]) x ↔ IsLast p ops x := by
  rw [isLast_concat]
  exact ⟨fun hx => hx.elim (fun hcon => absurd hcon.1 h) And.right, fun hx => .inr ⟨h, hx⟩⟩

lemma Shares.concat {i j : ℕ} (h : Shares ops i j) : Shares (ops ++ [op]) i j :=
  Relation.EqvGen.mono (fun _ _ hclone => gave_concat.mpr (.inr hclone)) i j h

end Operation

/-! ## Handles and histories -/

namespace Session

open Operation

variable [Operand α ρ] {ops more : List (Operation α)} {op : Operation α} {s s' : Session α}
  {g : Handle}

/-- The handles of a session tell how its history has connected them. -/
structure Agrees (ops : List (Operation α)) (s : Session α) : Prop where
  /-- The handles are those that the history gave. -/
  length : s.handles.length = ops.countP givesHandle
  /-- Their registries have been made. -/
  bounded : s.Bounded
  /-- A copy of a handle equals it. -/
  cloned : ∀ i j, Gave ops (.clone i) j → ∃ g, s.handles[i]? = some g ∧ s.handles[j]? = some g
  /-- Equal handles are connected. -/
  shares : ∀ i j g, s.handles[i]? = some g → s.handles[j]? = some g → Shares ops i j
  /-- The handles that came with a registry are different. -/
  created : ∀ i j g, Gave ops .create i → Gave ops .create j → s.handles[i]? = some g →
    s.handles[j]? = some g → i = j

lemma getElem?_concat_eq_some_iff {handles : List Handle} {h : Handle} {i : ℕ} :
    (handles ++ [h])[i]? = some g ↔ handles[i]? = some g ∨ (i = handles.length ∧ h = g) := by
  obtain hi | rfl | hi := lt_trichotomy i handles.length
  · simp [List.getElem?_append_left hi, hi.ne]
  · simp
  · simp [List.getElem?_append_right hi.le, List.getElem?_eq_none hi.le, hi.ne',
      (Nat.sub_pos_of_lt hi).ne']

lemma Agrees.lt_of_getElem? (hs : Agrees ops s) {i : ℕ} (hi : s.handles[i]? = some g) :
    i < ops.countP givesHandle :=
  hs.length ▸ (List.getElem?_eq_some_iff.mp hi).1

/-- The handle that the next registry will have is new. -/
lemma Agrees.ne_of_getElem? (hs : Agrees ops s) {i : ℕ} (hi : s.handles[i]? = some g) :
    (⟨s.registries.tables.size⟩ : Handle) ≠ g := by
  rintro rfl
  exact lt_irrefl _ (hs.bounded _ (List.mem_of_getElem? hi))

lemma Agrees.create (hs : Agrees ops s)
    (hhandles : s'.handles = s.handles ++ [⟨s.registries.tables.size⟩])
    (hsize : s'.registries.tables.size = s.registries.tables.size + 1) :
    Agrees (ops ++ [.create]) s' := by
  constructor
  case length =>
    simp [hhandles, hs.length, givesHandle]
  case bounded =>
    intro g hg
    rw [hhandles, List.mem_append, List.mem_singleton] at hg
    rw [hsize]
    obtain hg | rfl := hg
    · exact Nat.lt_succ_of_lt (hs.bounded g hg)
    · exact Nat.lt_succ_self _
  case cloned =>
    intro i j hgave
    obtain ⟨hcon, -⟩ | hgave := gave_concat.mp hgave
    · cases hcon
    · obtain ⟨g, hi, hj⟩ := hs.cloned i j hgave
      simp only [hhandles, getElem?_concat_eq_some_iff]
      exact ⟨g, .inl hi, .inl hj⟩
  case shares =>
    intro i j g hi hj
    rw [hhandles, getElem?_concat_eq_some_iff] at hi hj
    obtain hi | ⟨rfl, rfl⟩ := hi <;> obtain hj | ⟨rfl, hnew⟩ := hj
    · exact (hs.shares i j g hi hj).concat
    · exact absurd hnew (hs.ne_of_getElem? hi)
    · exact absurd rfl (hs.ne_of_getElem? hj)
    · exact .refl _
  case created =>
    intro i j g hgivei hgivej hi hj
    rw [hhandles, getElem?_concat_eq_some_iff] at hi hj
    obtain hi | ⟨rfl, rfl⟩ := hi <;> obtain hj | ⟨rfl, hnew⟩ := hj
    · have holdi := (hs.lt_of_getElem? hi).ne'
      have holdj := (hs.lt_of_getElem? hj).ne'
      simp only [gave_concat, true_and, holdi, holdj, false_or] at hgivei hgivej
      exact hs.created i j g hgivei hgivej hi hj
    · exact absurd hnew (hs.ne_of_getElem? hi)
    · exact absurd rfl (hs.ne_of_getElem? hj)
    · rfl

lemma Agrees.clone (hs : Agrees ops s) {k : ℕ} {h : Handle} (hk : s.handles[k]? = some h)
    (hhandles : s'.handles = s.handles ++ [h])
    (hsize : s'.registries.tables.size = s.registries.tables.size) :
    Agrees (ops ++ [.clone k]) s' := by
  have hnew : Shares (ops ++ [.clone k]) k s.handles.length :=
    .rel _ _ (gave_concat.mpr (.inl ⟨rfl, hs.length.symm⟩))
  constructor
  case length =>
    simp [hhandles, hs.length, givesHandle]
  case bounded =>
    intro g hg
    rw [hhandles, List.mem_append, List.mem_singleton] at hg
    rw [hsize]
    obtain hg | rfl := hg
    · exact hs.bounded g hg
    · exact hs.bounded g (List.mem_of_getElem? hk)
  case cloned =>
    intro i j hgave
    simp only [hhandles, getElem?_concat_eq_some_iff]
    obtain ⟨heq, rfl⟩ | hgave := gave_concat.mp hgave
    · cases heq
      exact ⟨h, .inl hk, .inr ⟨hs.length.symm, rfl⟩⟩
    · obtain ⟨g, hi, hj⟩ := hs.cloned i j hgave
      exact ⟨g, .inl hi, .inl hj⟩
  case shares =>
    intro i j g hi hj
    rw [hhandles, getElem?_concat_eq_some_iff] at hi hj
    obtain hi | ⟨rfl, rfl⟩ := hi <;> obtain hj | ⟨rfl, hg⟩ := hj
    · exact (hs.shares i j g hi hj).concat
    · subst hg
      exact .trans _ _ _ (hs.shares i k h hi hk).concat hnew
    · exact .trans _ _ _ (.symm _ _ hnew) (hs.shares k j h hk hj).concat
    · exact .refl _
  case created =>
    intro i j g hgivei hgivej hi hj
    simp only [gave_concat, reduceCtorEq, false_and, false_or] at hgivei hgivej
    have hlti := lt_countP_of_gave rfl hgivei
    have hltj := lt_countP_of_gave rfl hgivej
    rw [← hs.length] at hlti hltj
    rw [hhandles, List.getElem?_append_left hlti] at hi
    rw [hhandles, List.getElem?_append_left hltj] at hj
    exact hs.created i j g hgivei hgivej hi hj

lemma Agrees.same (hs : Agrees ops s) (hop : op.givesHandle = false)
    (hhandles : s'.handles = s.handles)
    (hsize : s'.registries.tables.size = s.registries.tables.size) :
    Agrees (ops ++ [op]) s' := by
  have hgave : ∀ x : Operation α, x.givesHandle = true → ∀ n,
      Gave (ops ++ [op]) x n → Gave ops x n := by
    intro x hx n h
    obtain ⟨rfl, -⟩ | h := gave_concat.mp h
    · simp [hop] at hx
    · exact h
  constructor
  case length =>
    simp [hhandles, hs.length, hop]
  case bounded =>
    intro g hg
    rw [hhandles] at hg
    exact hsize ▸ hs.bounded g hg
  case cloned =>
    intro i j h
    rw [hhandles]
    exact hs.cloned i j (hgave _ rfl j h)
  case shares =>
    intro i j g hi hj
    rw [hhandles] at hi hj
    exact (hs.shares i j g hi hj).concat
  case created =>
    intro i j g hgivei hgivej hi hj
    rw [hhandles] at hi hj
    exact hs.created i j g (hgave _ rfl i hgivei) (hgave _ rfl j hgivej) hi hj

lemma Agrees.step (hs : Agrees ops s) (h : s.step op = some s') : Agrees (ops ++ [op]) s' := by
  obtain ⟨rfl, hhandles, hsize⟩ | ⟨k, g, rfl, hk, hhandles, hsize⟩ | ⟨hop, hhandles, hsize⟩ :=
    handles_step h
  · exact hs.create hhandles hsize
  · exact hs.clone hk hhandles hsize
  · exact hs.same hop hhandles hsize

lemma agrees_of_run (h : run ops = some s) : Agrees ops s := by
  refine run_induction run_nil ?_ (fun _ _ _ _ _ hs hstep => hs.step hstep) h
  exact {
    length := rfl
    bounded := by simp [Bounded]
    cloned := fun _ _ hgave => absurd hgave not_gave_nil
    shares := by simp
    created := fun _ _ _ hgave => absurd hgave not_gave_nil }

lemma Agrees.getElem?_eq (hs : Agrees ops s) {i j : ℕ} (h : Shares ops i j) :
    s.handles[i]? = s.handles[j]? := by
  induction h with
  | rel i j hclone =>
    obtain ⟨g, hi, hj⟩ := hs.cloned i j hclone
    rw [hi, hj]
  | refl i => rfl
  | symm _ _ _ ih => exact ih.symm
  | trans _ _ _ _ _ ih₁ ih₂ => exact ih₁.trans ih₂

/-- The handles connected to a handle are those that equal it. -/
lemma shares_eq (hrun : run ops = some s) {k : ℕ} (hk : s.handles[k]? = some g) :
    Shares ops k = fun i => s.handles[i]? = some g := by
  have hs := agrees_of_run hrun
  funext i
  refine propext ⟨fun h => ?_, fun hi => hs.shares k i g hk hi⟩
  rw [← hs.getElem?_eq h, hk]

/-! ## The last writer -/

/-- A registry holds under a name the factory that the last operation on the name has registered, of
those through a handle on the registry. -/
lemma find?_eq_some_iff (hrun : run ops = some s) {later : List Handle}
    (hlater : s.handles <+: later) {name : String} {factory : Factory α} :
    (s.registries.get g).find? name = some factory ↔
      ∃ i, IsLast (Writes (later[·]? = some g) name) ops (.register i name factory) := by
  -- All the handles are looked up in one list, that of some later session, so that the operations
  -- that count are the same all along the run.
  refine run_induction (motive := fun ops s => ∀ later,
    s.handles <+: later → ((s.registries.get g).find? name = some factory ↔
      ∃ i, IsLast (Writes (later[·]? = some g) name) ops (.register i name factory)))
    run_nil ?_ ?_ hrun later hlater
  · intro later _
    have hnone : ((({} : Session α).registries.get g).find? name) = none := by
      simp [Registries.get, Registry.find?, Registry.empty]
    simp [hnone, IsLast]
  · intro ops s op s' hrun ih hstep later hlater
    have hprefix := (handles_mono_step hstep).trans hlater
    have hs := (agrees_of_run hrun).bounded
    obtain ⟨hwrites, hget⟩ | ⟨k, other, made, rfl, hk, hget⟩ | ⟨k, other, rfl, hk, hget⟩ :=
      registry_step hstep hs hprefix g
    · simp only [hget, ih later hprefix, isLast_concat_of_not (hwrites name)]
    · rw [hget, Registry.find?_register]
      by_cases hname : other = name
      · subst hname
        have hwrites : Writes (later[·]? = some g) other (.register k other made) := ⟨hk, rfl⟩
        simp [isLast_concat_of hwrites]
      · have hwrites : ¬ Writes (later[·]? = some g) name (.register k other made) :=
          fun hcon => hname hcon.2
        simp only [isLast_concat_of_not hwrites, if_neg hname, ih later hprefix]
    · rw [hget, Registry.find?_remove]
      by_cases hname : other = name
      · subst hname
        have hwrites : Writes (later[·]? = some g) other (.remove (α := α) k other) := ⟨hk, rfl⟩
        simp [isLast_concat_of hwrites]
      · have hwrites : ¬ Writes (later[·]? = some g) name (.remove (α := α) k other) :=
          fun hcon => hname hcon.2
        simp only [isLast_concat_of_not hwrites, if_neg hname, ih later hprefix]

lemma latest_eq (hrun : run ops = some s) {k : ℕ} (hk : s.handles[k]? = some g) :
    Latest ops k = fun name factory => (s.registries.get g).find? name = some factory := by
  funext name factory
  rw [Latest, shares_eq hrun hk, find?_eq_some_iff hrun List.prefix_rfl]

/-- A registry to which nothing is done through its handles stays as it is. -/
lemma get_eq_of_not_writes (hrun : run ops = some s) (h : run (ops ++ more) = some s')
    (hmore : ∀ op ∈ more, ∀ name, ¬ op.Writes (s'.handles[·]? = some g) name) :
    s'.registries.get g = s.registries.get g := by
  refine run_induction (motive := fun more s' => ∀ later, s'.handles <+: later →
    (∀ op ∈ more, ∀ name, ¬ op.Writes (later[·]? = some g) name) →
      s'.registries.get g = s.registries.get g) hrun ?_ ?_ h _ List.prefix_rfl hmore
  · intro _ _ _
    rfl
  · intro more s₁ op s' hrun₁ ih hstep later hlater hmore
    have hprefix := (handles_mono_step hstep).trans hlater
    have hs := (agrees_of_run hrun₁).bounded
    have hop := hmore op (by simp)
    have hget := ih later hprefix fun op hmem => hmore op (List.mem_append_left _ hmem)
    obtain ⟨-, hkeep⟩ | ⟨k, name, made, rfl, hk, -⟩ | ⟨k, name, rfl, hk, -⟩ :=
      registry_step hstep hs hprefix g
    · rw [hkeep, hget]
    · exact absurd ⟨hk, rfl⟩ (hop name)
    · exact absurd ⟨hk, rfl⟩ (hop name)

/-- Texts whose names are bound alike read alike. -/
lemma parse_eq_of_latest {ops' : List (Operation α)} (hrun : run ops = some s)
    (hrun' : run ops' = some s') {k k' : ℕ} {g' : Handle} (hk : s.handles[k]? = some g)
    (hk' : s'.handles[k']? = some g') {text : String}
    (h : ∀ name, Token.Mentions text name → ∀ factory,
      Latest ops k name factory ↔ Latest ops' k' name factory) :
    ((s.registries.get g).items text : Except (ExpressionError ρ) (List (Item α))) =
        (s'.registries.get g').items text ∧
      (s.registries.get g).parse text = (s'.registries.get g').parse text := by
  have hfind : ∀ name, Token.Mentions text name →
      (s.registries.get g).find? name = (s'.registries.get g').find? name := by
    intro name hname
    have hlatest := h name hname
    rw [latest_eq hrun hk, latest_eq hrun' hk'] at hlatest
    exact Option.ext hlatest
  exact ⟨Registry.items_congr hfind, Registry.parse_congr hfind⟩

/-- **The last writer wins.**  Operations that use only handles obtained before can be done.  Then
each handle is on a registry that shows, under every name, what the last operation on the name has
left there, of those through this handle or one connected to it; removing a name tells whether it
was there.  Connected handles are on the same registry, and a registry changes only by writing
through a handle connected to its own; in particular registries made separately, whose handles are
not connected, never influence each other.  How a text reads depends only on what is bound to its
names, and an expression that has been parsed stays the same for good. -/
theorem run_lastWriterWins {ops : List (Operation α)} (h : wellScoped 0 ops = true) :
    ∃ s : Session α, run ops = some s ∧ s.handles.length = ops.countP givesHandle ∧
    (∀ k g, s.handles[k]? = some g →
      (s.registries.get g).Shows (Latest ops k) ∧
      (∀ name, (s.registries.remove g name).2 = (s.registries.get g).contains name) ∧
      (∀ i, Shares ops k i → s.handles[i]? = some g) ∧
      (∀ more s', run (ops ++ more) = some s' → s'.handles[k]? = some g ∧
        ((∀ op ∈ more, ∀ name, ¬ op.Writes (Shares (ops ++ more) k) name) →
          s'.registries.get g = s.registries.get g)) ∧
      (∀ text e, (s.registries.get g).parse text = .ok e →
        ∀ more s', run (ops ++ .parse k text :: more) = some s' →
          s'.expressions[s.expressions.length]? = some e) ∧
      ∀ ops' s' k' g' text, run ops' = some s' → s'.handles[k']? = some g' →
        (∀ name, Token.Mentions text name → ∀ factory,
          Latest ops k name factory ↔ Latest ops' k' name factory) →
        ((s.registries.get g).items text : Except (ExpressionError ρ) (List (Item α))) =
            (s'.registries.get g').items text ∧
          (s.registries.get g).parse text = (s'.registries.get g').parse text) ∧
    ∀ i j, Gave ops .create i → Gave ops .create j → Shares ops i j → i = j := by
  obtain ⟨s, hrun⟩ := exists_run h
  have hs := agrees_of_run hrun
  refine ⟨s, hrun, hs.length, ?_, ?_⟩
  · intro k g hk
    refine ⟨?_, fun name => rfl, ?_, ?_, ?_, ?_⟩
    · rw [latest_eq hrun hk]
      exact (s.registries.get g).shows_find?
    · intro i hi
      rw [← hs.getElem?_eq hi, hk]
    · intro more s' hrun'
      have hk' := getElem?_of_prefix (handles_mono hrun hrun') hk
      refine ⟨hk', fun hmore => get_eq_of_not_writes hrun hrun' ?_⟩
      rwa [shares_eq hrun' hk'] at hmore
    · intro text e he more s' hrun'
      exact getElem?_expressions_of_parse hrun hk he hrun'
    · intro ops' s' k' g' text hrun' hk' hlatest
      exact parse_eq_of_latest hrun hrun' hk hk' hlatest
  · intro i j hi hj hij
    have hlt := hs.length ▸ lt_countP_of_gave rfl hi
    have hgi := List.getElem?_eq_getElem hlt
    exact hs.created i j _ hi hj hgi (hs.getElem?_eq hij ▸ hgi)

/-- A registry with a handle, a copy of it and a copy of the copy, and a registry of its own.  Both
bind the name `kind`, the first one twice. -/
def twoRegistries : List (Operation Builtin) :=
  [.create, .clone 0, .clone 1, .create,
    .register 1 "kind" (Builtin.factory (.pattern · none)),
    .register 2 "kind" (Builtin.factory (.fileType · none)),
    .register 3 "kind" (Builtin.factory (.newer · none)),
    .remove 1 "re"]

theorem run_lastWriterWins_twoRegistries :
    wellScoped 0 twoRegistries = true ∧ ∃ s : Session Builtin, run twoRegistries = some s ∧
      ∃ g, s.handles[0]? = some g ∧ (s.registries.get g).contains "kind" = true ∧
        ((s.registries.get g).items "kind=dir" :
            Except (ExpressionError Builtin.Refusal) (List (Item Builtin))) =
          .ok [.operand (.fileType "dir" none)] := by
  have hscoped : wellScoped 0 twoRegistries = true := rfl
  obtain ⟨s, hrun, hlength, hhandles, hcreated⟩ := run_lastWriterWins hscoped
  have hlt : 0 < s.handles.length := by
    rw [hlength]
    decide
  have hg := List.getElem?_eq_getElem hlt
  obtain ⟨hshows, -⟩ := hhandles 0 _ hg
  have hcopies : Shares twoRegistries 0 2 :=
    .trans _ 1 _ (.rel _ _ ⟨[.create], _, rfl, rfl⟩) (.rel _ _ ⟨[.create, .clone 0], _, rfl, rfl⟩)
  have hapart : ¬ Shares twoRegistries 0 3 := fun hcon =>
    absurd (hcreated 0 3 ⟨[], _, rfl, rfl⟩ ⟨[.create, .clone 0, .clone 1], _, rfl, rfl⟩ hcon)
      (by decide)
  have hlatest : Latest twoRegistries 0 "kind" (Builtin.factory (.fileType · none)) := by
    refine ⟨2, twoRegistries.take 5, twoRegistries.drop 6, rfl, ⟨hcopies, rfl⟩, ?_⟩
    rintro later (_ | ⟨_, _ | ⟨_, _ | _⟩⟩)
    · exact fun hcon => hapart hcon.1
    · exact fun hcon => absurd hcon.2 (by decide)
  refine ⟨hscoped, s, hrun, _, hg, (hshows.contains_iff "kind").mpr ⟨_, hlatest⟩, ?_⟩
  refine (hshows.items_iff _ _).mpr ⟨[.name "kind", .value "dir"], by decide, ?_⟩
  exact .operand "dir" hlatest .nil

end Session

end FileSieve
