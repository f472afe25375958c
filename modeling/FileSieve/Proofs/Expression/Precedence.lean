import Mathlib.Data.List.Forall2
import FileSieve.Proofs.Expression.Item
import FileSieve.Proofs.Expression.Level
import FileSieve.Proofs.Expression.Value

/-!
# Conventional precedence

Conventionally a negation binds most tightly, a conjunction comes next, and a disjunction last.  The
value of a level is then a disjunction of conjunctions: all terms of one of its groups hold
(`Level.conventional`, to be compared with `Level.value`).

The two readings differ on a level only if a conjunction stands to the right of a disjunction
(`Level.Mixes`).  Without that, every group but the first is a single term, and both readings say
the same (`Level.value_eq_conventional`).  In any case what holds conventionally holds
(`Level.value_of_conventional`).  And where the level mixes, some truth values of its terms make it
hold although it does not hold conventionally (`Level.exists_assigns_value_ne`): the term after the
disjunction is true, and all others are false.

What the terms of a level come to is an assignment of truth values to them (`Level.Assigns`), and
every assignment is a level in its own right, over truth values as operands.
-/

namespace FileSieve

open Grammar

variable {α ρ : Type}

/-- Truth values as operands: each holds of every subject or of none, and reads nothing. -/
instance instOperandBool : Operand Bool Empty where
  name v := if v then "true" else "false"
  text v := if v then "true" else "false"
  capabilities _ := []
  prepare v := .ok v
  eval v _ := v
  asks _ _ := []

lemma Item.foldAll_eq_map {β : Type} (leaf : α → β) (node : List (Item β) → β)
    (items : List (Item α)) : foldAll leaf node items = items.map (fold leaf node) := by
  induction items with
  | nil => rfl
  | cons x items ih => rw [foldAll, ih, List.map_cons]

namespace Level

/-! ## The conventional value -/

/-- The conventional value of a level: all terms of one of its groups hold. -/
def conventional (level : List (Item Bool)) : Bool :=
  (groups level).any fun group => group.all id

/-- Whether a conjunction stands to the right of a disjunction of the same level. -/
def Mixes (level : List (Item α)) : Prop :=
  [Item.operator .or, Item.operator .and].Sublist level

/-- An item of a level, with a truth value in its place if it is a term. -/
inductive AssignsTo : Item α → Item Bool → Prop
  | operator (op : Operator) : AssignsTo (.operator op) (.operator op)
  | term {x : Item α} (hx : x.isTerm = true) (v : Bool) : AssignsTo x (.operand v)

/-- The level with a truth value in the place of each term. -/
def Assigns (level : List (Item α)) (valued : List (Item Bool)) : Prop :=
  List.Forall₂ AssignsTo level valued

/-! ## Groups of chains -/

section Chains

variable {level term rest : List (Item Bool)}

lemma IsTerm.isBinary_eq_false {term : List (Item α)} (h : IsTerm term) :
    ∀ x ∈ term, x.isBinary = false := by
  intro x hx
  cases x with
  | operator op =>
    obtain rfl := h.operator_mem hx
    rfl
  | operand | group => rfl

lemma Mixes.join {term rest : List (Item α)} {op : Operator} (h : Mixes rest) :
    Mixes (term ++ .operator op :: rest) :=
  h.trans ((List.sublist_cons_self _ rest).trans (List.sublist_append_right term _))

lemma mixes_of_and_mem {term rest : List (Item α)} (h : Item.operator .and ∈ rest) :
    Mixes (term ++ .operator .or :: rest) :=
  ((List.singleton_sublist.mpr h).cons_cons _).trans (List.sublist_append_right term _)

lemma mixes_of_append {term rest : List (Item α)} (hor : .operator .or ∉ term)
    (h : Mixes (term ++ rest)) : Mixes rest := by
  induction term with
  | nil => exact h
  | cons x term ih =>
    rw [List.mem_cons, not_or] at hor
    rw [Mixes, List.cons_append, List.cons_sublist_cons'] at h
    exact ih hor.2 (h.resolve_right fun hcon => hor.1 hcon.1)

lemma mixes_cons_operator_iff {op : Operator} {rest : List (Item α)} :
    Mixes (.operator op :: rest) ↔ Mixes rest ∨ op = .or ∧ .operator .and ∈ rest := by
  simp [Mixes, List.cons_sublist_cons', eq_comm]

/-- A level with a single connective, as in an expression with all its brackets, does not mix, and
neither does a level with one kind of connective. -/
lemma not_mixes_of_connectives {level : List (Item α)} (h : level.countP Item.isBinary ≤ 1 ∨
    .operator .or ∉ level ∨ .operator .and ∉ level) : ¬ Mixes level := by
  intro hmix
  obtain hcount | hor | hand := h
  · have htwo : 2 ≤ level.countP Item.isBinary := hmix.countP_le (p := Item.isBinary)
    omega
  · exact hor (hmix.subset (by simp))
  · exact hand (hmix.subset (by simp))

/-- Without a conjunction every group is a single term. -/
lemma IsChain.groups_eq_singleton (h : IsChain level) (hand : Item.operator .and ∉ level) :
    ∀ g ∈ groups level, ∃ v, g = [v] := by
  induction h with
  | last h => simp [groups_term h.isBinary_eq_false]
  | @join term rest op h hop _ ih =>
    obtain rfl | rfl := Operator.isBinary_iff.mp hop
    · simp at hand
    · have hrest : Item.operator .and ∉ rest := by simp_all
      simpa [groups_or h.isBinary_eq_false] using ih hrest

/-- On a level that does not mix, every group but the first is a single term. -/
lemma IsChain.tail_groups_eq_singleton (h : IsChain level) (hmix : ¬ Mixes level) :
    ∀ g ∈ (groups level).tail, ∃ v, g = [v] := by
  induction h with
  | last h => simp [groups_term h.isBinary_eq_false]
  | @join term rest op h hop hrest ih =>
    obtain rfl | rfl := Operator.isBinary_iff.mp hop
    · rw [groups_and h.isBinary_eq_false, List.tail_modifyHead]
      exact ih fun hcon => hmix hcon.join
    · rw [groups_or h.isBinary_eq_false]
      exact hrest.groups_eq_singleton fun hcon => hmix (mixes_of_and_mem hcon)

/-! ## The two readings of a level -/

lemma any_headD_eq_any_all {later : List (List Bool)} (h : ∀ g ∈ later, ∃ v, g = [v]) :
    (later.any fun g => g.headD false) = later.any fun g => g.all id := by
  induction later with
  | nil => rfl
  | cons g later ih =>
    obtain ⟨⟨v, hv⟩, hlater⟩ := List.forall_mem_cons.mp h
    rw [List.any_cons, List.any_cons, ih hlater, hv]
    simp

lemma value_of_groups {first : List Bool} {later : List (List Bool)}
    (h : groups level = first :: later) :
    value level = (first.all id || later.any fun g => g.headD false) := by
  rw [value, h]

lemma conventional_of_groups {first : List Bool} {later : List (List Bool)}
    (h : groups level = first :: later) :
    conventional level = (first.all id || later.any fun g => g.all id) := by
  rw [conventional, h, List.any_cons]

lemma exists_groups_eq_cons (level : List (Item Bool)) :
    ∃ first later, groups level = first :: later := by
  refine List.exists_cons_of_ne_nil ?_
  rw [groups, ne_eq, List.map_eq_nil_iff]
  exact List.splitOnP_ne_nil _ _

/-- Where no conjunction stands to the right of a disjunction, the two readings agree. -/
lemma value_eq_conventional (h : IsChain level) (hmix : ¬ Mixes level) :
    value level = conventional level := by
  obtain ⟨first, later, hgroups⟩ := exists_groups_eq_cons level
  have hlater := h.tail_groups_eq_singleton hmix
  rw [hgroups, List.tail_cons] at hlater
  rw [value_of_groups hgroups, conventional_of_groups hgroups, any_headD_eq_any_all hlater]

/-- What holds conventionally holds. -/
lemma value_of_conventional (h : conventional level = true) : value level = true := by
  obtain ⟨first, later, hgroups⟩ := exists_groups_eq_cons level
  have hne : ∀ g ∈ groups level, g ≠ [] := by simp [groups, List.splitOnP_ne_nil]
  rw [conventional_of_groups hgroups, Bool.or_eq_true, List.any_eq_true] at h
  rw [value_of_groups hgroups, Bool.or_eq_true, List.any_eq_true]
  obtain hfirst | ⟨g, hg, hall⟩ := h
  · exact .inl hfirst
  · have hmem : g ∈ groups level := hgroups ▸ List.mem_cons_of_mem _ hg
    obtain ⟨v, g', rfl⟩ := List.exists_cons_of_ne_nil (hne g hmem)
    have hv : v = true := by simp_all
    exact .inr ⟨_, hg, hv⟩

end Chains

/-! ## Assignments -/

section Assignments

variable {level term rest : List (Item α)} {valued : List (Item Bool)}

lemma Assigns.exists_append (h : Assigns (term ++ rest) valued) :
    ∃ first later, valued = first ++ later ∧ Assigns term first ∧ Assigns rest later := by
  refine ⟨valued.take term.length, valued.drop term.length, ?_, ?_, ?_⟩
  · rw [List.take_append_drop]
  · simpa [Assigns] using List.forall₂_take term.length h
  · simpa [Assigns] using List.forall₂_drop term.length h

lemma Assigns.append {first later : List (Item Bool)} (h : Assigns term first)
    (hrest : Assigns rest later) : Assigns (term ++ rest) (first ++ later) :=
  List.rel_append h hrest

lemma Assigns.isTerm (h : Assigns term valued) (hterm : IsTerm term) : IsTerm valued := by
  cases hterm with
  | plain hx =>
    obtain _ | ⟨hitem, hnil⟩ := h
    cases hnil
    cases hitem with
    | operator op => contradiction
    | term _ v => exact .plain rfl
  | negated hx =>
    obtain _ | ⟨hnot, hrest⟩ := h
    obtain _ | ⟨hitem, hnil⟩ := hrest
    cases hnil
    cases hitem with
    | operator op => contradiction
    | term _ v =>
      cases hnot with
      | operator => exact .negated rfl
      | term hx => contradiction

lemma Assigns.isChain (h : Assigns level valued) (hlevel : IsChain level) : IsChain valued := by
  induction hlevel generalizing valued with
  | last hterm => exact .last (h.isTerm hterm)
  | join hterm hop _ ih =>
    obtain ⟨first, later, rfl, hfirst, hlater⟩ := h.exists_append
    obtain _ | ⟨hitem, hlater⟩ := hlater
    cases hitem with
    | operator => exact .join (hfirst.isTerm hterm) hop (ih hlater)
    | term hx => contradiction

lemma AssignsTo.operator_eq_iff {x : Item α} {y : Item Bool} (h : AssignsTo x y) (op : Operator) :
    .operator op = y ↔ .operator op = x := by
  cases h with
  | operator op' => simp
  | term hx v =>
    refine iff_of_false (by simp) ?_
    rintro rfl
    simp [Item.isTerm] at hx

lemma Assigns.operator_mem_iff (h : Assigns level valued) (op : Operator) :
    .operator op ∈ valued ↔ .operator op ∈ level := by
  induction h with
  | nil => simp
  | cons hitem _ ih => rw [List.mem_cons, List.mem_cons, hitem.operator_eq_iff, ih]

/-- An assignment keeps the operators in their places. -/
lemma Assigns.mixes_iff (h : Assigns level valued) : Mixes valued ↔ Mixes level := by
  induction h with
  | nil => simp [Mixes]
  | cons hitem hrest ih =>
    have hand := Assigns.operator_mem_iff hrest .and
    simp only [Mixes] at ih
    simp only [Mixes, List.cons_sublist_cons', List.singleton_sublist, ih, hand,
      hitem.operator_eq_iff]

lemma Assigns.group_notMem (h : Assigns level valued) (inner : List (Item Bool)) :
    Item.group inner ∉ valued := by
  induction h with
  | nil => simp
  | cons hitem _ ih => cases hitem <;> simp [ih]

/-! ### Assignments that tell the readings apart -/

/-- A term can be given either value. -/
lemma IsTerm.exists_assigns (h : IsTerm term) (v : Bool) :
    ∃ valued, Assigns term valued ∧ (∀ x ∈ valued, x.isBinary = false) ∧ termValue valued = v := by
  cases h with
  | plain hx => exact ⟨[.operand v], .cons (.term hx v) .nil, by simp [Item.isBinary], rfl⟩
  | negated hx =>
    refine ⟨[.operator .not, .operand !v], .cons (.operator .not) (.cons (.term hx _) .nil), ?_, ?_⟩
    · simp [Item.isBinary, Operator.isBinary]
    · simp [termValue]

/-- All terms of a level can be made false. -/
lemma IsChain.exists_assigns_false (h : IsChain level) :
    ∃ valued first later, Assigns level valued ∧ groups valued = (false :: first) :: later ∧
      ∀ g ∈ later, g.all id = false := by
  induction h with
  | last hterm =>
    obtain ⟨valued, hassigns, hvalued, hvalue⟩ := hterm.exists_assigns false
    exact ⟨valued, [], [], hassigns, by rw [groups_term hvalued, hvalue], by simp⟩
  | @join term rest op hterm hop _ ih =>
    obtain ⟨valued, hassigns, hvalued, hvalue⟩ := hterm.exists_assigns false
    obtain ⟨valuedRest, first, later, hrest, hgroups, hlater⟩ := ih
    have hjoin := hassigns.append (hrest.cons (.operator op))
    obtain rfl | rfl := Operator.isBinary_iff.mp hop
    · refine ⟨_, false :: first, later, hjoin, ?_, hlater⟩
      rw [groups_and hvalued, hgroups, hvalue, List.modifyHead_cons]
    · refine ⟨_, [], (false :: first) :: later, hjoin, ?_, ?_⟩
      · rw [groups_or hvalued, hgroups, hvalue]
      · simpa using hlater

/-- If a conjunction stands after the first term, that term can be made true and all others
false. -/
lemma IsChain.exists_assigns_first (h : IsChain level) (hand : .operator .and ∈ level)
    (hmix : ¬ Mixes level) :
    ∃ valued first later, Assigns level valued ∧
      groups valued = (true :: false :: first) :: later ∧ ∀ g ∈ later, g.all id = false := by
  cases h with
  | last hterm => simpa using hterm.operator_mem hand
  | @join term rest op hterm hop hrest =>
    have hterm_and : .operator .and ∉ term := fun hcon => by simpa using hterm.operator_mem hcon
    obtain rfl | rfl := Operator.isBinary_iff.mp hop
    · obtain ⟨valued, hassigns, hvalued, hvalue⟩ := hterm.exists_assigns true
      obtain ⟨valuedRest, first, later, hassignsRest, hgroups, hlater⟩ := hrest.exists_assigns_false
      refine ⟨_, first, later, hassigns.append (hassignsRest.cons (.operator .and)), ?_, hlater⟩
      rw [groups_and hvalued, hgroups, hvalue, List.modifyHead_cons]
    · have hand : .operator .and ∈ rest := by simpa [hterm_and] using hand
      exact absurd (mixes_of_and_mem hand) hmix

/-- The readings come apart in the first group that a disjunction and then a conjunction reach: its
first term is made true, and all other terms of the level false. -/
lemma IsChain.exists_assigns_apart (h : IsChain level) (hmix : Mixes level) :
    ∃ valued first later, Assigns level valued ∧ groups valued = (false :: first) :: later ∧
      (∀ g ∈ later, g.all id = false) ∧ ∃ g ∈ later, g.headD false = true := by
  induction h with
  | last hterm =>
    have hor := hmix.subset (List.mem_cons_self (a := Item.operator .or))
    simpa using hterm.operator_mem hor
  | @join term rest op hterm hop hrest ih =>
    obtain ⟨valued, hassigns, hvalued, hvalue⟩ := hterm.exists_assigns false
    have hmix : Mixes rest ∨ op = .or ∧ .operator .and ∈ rest := by
      have hterm_or : .operator .or ∉ term := fun hcon => by simpa using hterm.operator_mem hcon
      exact mixes_cons_operator_iff.mp (mixes_of_append hterm_or hmix)
    by_cases hmixRest : Mixes rest
    · obtain ⟨valuedRest, first, later, hassignsRest, hgroups, hlater, hhead⟩ := ih hmixRest
      have hjoin := hassigns.append (hassignsRest.cons (.operator op))
      obtain rfl | rfl := Operator.isBinary_iff.mp hop
      · refine ⟨_, false :: first, later, hjoin, ?_, hlater, hhead⟩
        rw [groups_and hvalued, hgroups, hvalue, List.modifyHead_cons]
      · obtain ⟨g, hg, htrue⟩ := hhead
        refine ⟨_, [], (false :: first) :: later, hjoin, ?_, ?_, g, List.mem_cons_of_mem _ hg, htrue⟩
        · rw [groups_or hvalued, hgroups, hvalue]
        · simpa using hlater
    · obtain ⟨rfl, hand⟩ := hmix.resolve_left hmixRest
      obtain ⟨valuedRest, first, later, hassignsRest, hgroups, hlater⟩ :=
        hrest.exists_assigns_first hand hmixRest
      refine ⟨_, [], (true :: false :: first) :: later,
        hassigns.append (hassignsRest.cons (.operator .or)), ?_, ?_, _, List.mem_cons_self, rfl⟩
      · rw [groups_or hvalued, hgroups, hvalue]
      · simpa using hlater

/-- Where a conjunction stands to the right of a disjunction, the terms of the level can be given
values with which the level holds, but not conventionally. -/
lemma IsChain.exists_assigns_value_ne (h : IsChain level) (hmix : Mixes level) :
    ∃ valued, Assigns level valued ∧ value valued = true ∧ conventional valued = false := by
  obtain ⟨valued, first, later, hassigns, hgroups, hlater, hhead⟩ := h.exists_assigns_apart hmix
  refine ⟨valued, hassigns, ?_, ?_⟩
  · rw [value_of_groups hgroups, List.any_eq_true.mpr hhead, Bool.or_true]
  · rw [conventional_of_groups hgroups]
    simpa using hlater

end Assignments

/-! ## Levels of truth values -/

section TruthValues

variable {valued : List (Item Bool)}

lemma elaborates_cons_term {unit : Item α → Item α → Prop} {op : Operator}
    {items level rest after : List (Item α)} (h : Elaborates unit .term items level)
    (hop : op.isBinary = true) (hrest : Elaborates unit .expression rest after) :
    Elaborates unit .expression (items ++ .operator op :: rest)
      (level ++ .operator op :: after) := by
  cases hrest with
  | expression hfirst htail => exact .expression h (.more hop hfirst htail)

lemma IsTerm.elaborates (h : IsTerm valued) (hflat : ∀ inner, Item.group inner ∉ valued) :
    Elaborates PreparesTo .term valued valued := by
  have hprimary : ∀ x ∈ valued, x.isTerm = true → Elaborates PreparesTo .primary [x] [x] := by
    intro x hmem hx
    cases x with
    | operator op => contradiction
    | operand v => exact .unit (.operand rfl)
    | group inner => exact absurd hmem (hflat inner)
  cases h with
  | plain hx => exact .plain (hprimary _ (by simp) hx)
  | negated hx => exact .negated (hprimary _ (by simp) hx)

/-- A chain of truth values is what the grammar makes of it. -/
lemma IsChain.elaborates (h : IsChain valued) (hflat : ∀ inner, Item.group inner ∉ valued) :
    Elaborates PreparesTo .expression valued valued := by
  induction h with
  | last hterm => simpa using Elaborates.expression (hterm.elaborates hflat) .done
  | join hterm hop _ ih =>
    simp only [List.mem_append, List.mem_cons, reduceCtorEq, false_or, not_or] at hflat
    exact elaborates_cons_term (hterm.elaborates fun inner => (hflat inner).1) hop
      (ih fun inner => (hflat inner).2)

lemma truthValues_of_flat (hflat : ∀ inner, Item.group inner ∉ valued) (subject : Subject) :
    Item.truthValues subject valued = valued := by
  induction valued with
  | nil => rfl
  | cons x valued ih =>
    simp only [List.mem_cons, not_or] at hflat
    have hrest := ih fun inner => (hflat inner).2
    rw [Item.truthValues] at hrest ⊢
    rw [Item.foldAll, hrest]
    cases x with
    | operator | operand => rfl
    | group inner => exact absurd rfl (hflat inner).1

/-- The evaluation of an assignment comes to its value. -/
lemma Assigns.eval_eq {level : List (Item α)} (h : Assigns level valued)
    (hlevel : level = [] ∨ IsChain level) (subject : Subject) :
    Expression.eval ⟨valued⟩ subject = value valued := by
  obtain rfl | hchain := hlevel
  · cases h
    rfl
  · have helaborates := (h.isChain hchain).elaborates h.group_notMem
    obtain ⟨-, houtcome⟩ : Evaluation.Valued subject .expression valued :=
      Evaluation.valued_of_elaborates helaborates
    rw [truthValues_of_flat h.group_notMem] at houtcome
    rw [Expression.eval, Expression.evaluate, houtcome]

lemma assigns_foldAll (leaf : α → Bool) (node : List (Item Bool) → Bool) (items : List (Item α)) :
    Assigns items (Item.foldAll leaf node items) := by
  induction items with
  | nil => exact .nil
  | cons x items ih =>
    refine .cons ?_ ih
    cases x with
    | operator op => exact .operator op
    | operand | group => exact .term rfl _

end TruthValues

end Level

namespace Expression

open Level

variable [Operand α ρ]

/-- The conventional value of an expression, from the inside out. -/
def conventional (e : Expression α) (subject : Subject) : Bool :=
  Level.conventional (Item.foldAll (Operand.eval · subject) Level.conventional e.items)

lemma HasLevel.of_group_mem {e : Expression α} {inner level : List (Item α)}
    (hmem : Item.group inner ∈ e.items) (h : HasLevel ⟨inner⟩ level) : e.HasLevel level := by
  induction h with
  | outermost => exact .inside .outermost hmem
  | inside _ hinner ih => exact .inside ih hinner

/-- Where no level mixes, both readings put the same value in the place of a term. -/
lemma fold_value_eq_fold_conventional (subject : Subject) (x : Item α)
    (hlevels : ∀ inner, x = .group inner → ∀ level, HasLevel ⟨inner⟩ level →
      IsChain level ∧ ¬ Mixes level) :
    x.fold (Operand.eval · subject) Level.value =
      x.fold (Operand.eval · subject) Level.conventional := by
  induction x using Item.induction with
  | operator op => rfl
  | operand a => rfl
  | group items ih =>
    have hitems := hlevels items rfl
    have hfold : Item.foldAll (Operand.eval · subject) Level.value items =
        Item.foldAll (Operand.eval · subject) Level.conventional items := by
      rw [Item.foldAll_eq_map, Item.foldAll_eq_map]
      refine List.map_congr_left fun y hy => ih y hy ?_
      rintro inner rfl level h
      exact hitems level (h.of_group_mem hy)
    obtain ⟨hchain, hmix⟩ := hitems items .outermost
    have hassigns := assigns_foldAll (Operand.eval · subject) Level.value items
    have hvalue := value_eq_conventional (hassigns.isChain hchain)
      fun hcon => hmix (hassigns.mixes_iff.mp hcon)
    rw [Item.fold, Item.fold, hvalue, hfold]

lemma value_eq_conventional_of_levels {e : Expression α} (subject : Subject)
    (hlevels : ∀ level, e.HasLevel level → IsChain level ∧ ¬ Mixes level) :
    Level.value (Item.truthValues subject e.items) = e.conventional subject := by
  have hgroup := fold_value_eq_fold_conventional subject (.group e.items)
    fun inner hinner => by
      cases hinner
      exact hlevels
  rw [Item.fold, Item.fold, Item.operand.injEq] at hgroup
  exact hgroup

lemma HasLevel.eq_nil {e : Expression α} {level : List (Item α)} (hempty : e.items = [])
    (h : e.HasLevel level) : level = [] := by
  induction h with
  | outermost => exact hempty
  | inside _ hmem ih => simp [ih] at hmem

/-- The levels of a built expression are chains, but for the empty one. -/
lemma Built.level_isChain {e : Expression α} (h : e.Built) {level : List (Item α)}
    (hlevel : e.HasLevel level) : level = [] ∨ IsChain level :=
  h.isChain.imp (fun hempty => hlevel.eq_nil hempty) fun hchain => hchain level hlevel

/-- On every level the evaluation comes to the value of the level. -/
lemma Built.eval_level {e : Expression α} (h : e.Built) {level : List (Item α)}
    (hlevel : e.HasLevel level) (subject : Subject) :
    eval ⟨level⟩ subject = Level.value (Item.truthValues subject level) := by
  obtain hempty | hlevels := h.level_elaborates
  · obtain rfl := hlevel.eq_nil hempty
    rfl
  · obtain ⟨source, helaborates⟩ := hlevels level hlevel
    obtain ⟨-, houtcome⟩ : Evaluation.Valued subject .expression level :=
      Evaluation.valued_of_elaborates helaborates
    rw [eval, evaluate, houtcome]

/-- **Evaluation and conventional precedence.**  A built expression in which no level has a
conjunction to the right of a disjunction comes to its conventional value.  What the terms of a
level come to is one assignment of truth values to them.  Under every assignment, a level that holds
conventionally evaluates to true; and a level with a conjunction to the right of a disjunction
evaluates to true under some assignment with which it does not hold conventionally. -/
theorem Built.eval_conventional {e : Expression α} (h : e.Built) :
    ((∀ level, e.HasLevel level → ¬ Mixes level) →
      ∀ subject, e.eval subject = e.conventional subject) ∧
    (∀ level : List (Item α), (level.countP Item.isBinary ≤ 1 ∨ .operator .or ∉ level ∨
      .operator .and ∉ level) → ¬ Mixes level) ∧
    ∀ level, e.HasLevel level →
      (∀ subject, Assigns level (Item.truthValues subject level) ∧
        eval ⟨level⟩ subject = eval ⟨Item.truthValues subject level⟩ subject) ∧
      (∀ valued, Assigns level valued → Level.conventional valued = true →
        ∀ subject, eval ⟨valued⟩ subject = true) ∧
      (Mixes level → ∃ valued, Assigns level valued ∧ Level.conventional valued = false ∧
        ∀ subject, eval ⟨valued⟩ subject = true) := by
  refine ⟨?_, fun level h => not_mixes_of_connectives h, fun level hlevel => ⟨?_, ?_, ?_⟩⟩
  · intro hmix subject
    obtain hempty | hchain := h.isChain
    · obtain ⟨items⟩ := e
      cases hempty
      rfl
    · rw [← value_eq_conventional_of_levels subject
        fun level hlevel => ⟨hchain level hlevel, hmix level hlevel⟩]
      exact h.eval_level .outermost subject
  · intro subject
    have hassigns : Assigns level (Item.truthValues subject level) := assigns_foldAll _ _ level
    refine ⟨hassigns, ?_⟩
    rw [h.eval_level hlevel, hassigns.eval_eq (h.level_isChain hlevel)]
  · intro valued hassigns hconventional subject
    rw [hassigns.eval_eq (h.level_isChain hlevel)]
    exact value_of_conventional hconventional
  · intro hmix
    have hchain : IsChain level := (h.level_isChain hlevel).resolve_left <| by
      rintro rfl
      simp [Mixes] at hmix
    obtain ⟨valued, hassigns, hvalue, hconventional⟩ := hchain.exists_assigns_value_ne hmix
    refine ⟨valued, hassigns, hconventional, fun subject => ?_⟩
    rw [hassigns.eval_eq (.inr hchain), hvalue]

/-- Two disjoined terms. -/
def disjoined : List (Item Builtin) :=
  [.operand (.fileType "l" (some .symlink)), .operator .or, .operand (.fileType "f" (some .file))]

/-- A conjunction and then a disjunction, with `disjoined` between brackets. -/
def bracketed : Expression Builtin where
  items :=
    [.operand (.fileType "d" (some .dir)), .operator .and, .operator .not, .group disjoined,
      .operator .or, .operand (.size .smaller "1K" (some 1024))]

theorem eval_conventional_laterGroup :
    laterGroup.Built ∧ Mixes laterGroup.items ∧
      (∃ valued, Assigns laterGroup.items valued ∧ Level.conventional valued = false ∧
        ∀ subject, eval ⟨valued⟩ subject = true) ∧
      bracketed.Built ∧ (∀ level, bracketed.HasLevel level → ¬ Mixes level) ∧
      ∀ subject, bracketed.eval subject = bracketed.conventional subject := by
  have hlater : Registry.builtins.parse "type=d || type=f && !(type=l || type=f)" =
      .ok laterGroup := by rfl
  have hmix : Mixes laterGroup.items := by simp [Mixes, laterGroup]
  have hbracketed : Registry.builtins.parse "type=d && !(type=l || type=f) || file-smaller=1K" =
      .ok bracketed := by rfl
  have hlevels : ∀ level, bracketed.HasLevel level →
      level = bracketed.items ∨ level = disjoined := by
    intro level hlevel
    induction hlevel with
    | outermost => exact .inl rfl
    | inside _ hmem ih =>
      obtain rfl | rfl := ih
      · exact .inr (by simpa [bracketed] using hmem)
      · simp [disjoined] at hmem
  have hfree : ∀ level, bracketed.HasLevel level → ¬ Mixes level := by
    intro level hlevel
    obtain rfl | rfl := hlevels level hlevel
    · simp [Mixes, bracketed, List.cons_sublist_cons']
    · simp [Mixes, disjoined, List.cons_sublist_cons']
  obtain ⟨-, -, hreadings⟩ := Built.eval_conventional (.parse hlater)
  obtain ⟨hconventional, -, -⟩ := Built.eval_conventional (.parse hbracketed)
  exact ⟨.parse hlater, hmix, (hreadings _ .outermost).2.2 hmix, .parse hbracketed, hfree,
    hconventional hfree⟩

end Expression

end FileSieve
