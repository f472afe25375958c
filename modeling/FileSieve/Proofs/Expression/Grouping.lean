import FileSieve.Proofs.Expression.Brackets

/-!
# Brackets and ready-made groups

A part of the input between brackets may as well be built by itself and put in as a ready-made
group: the same inputs are accepted, and the same expressions come out of them
(`Expression.build_brackets_iff`).  The two ways are different for the scan, which looks at the item
before an opening bracket and opens a level for it, and does neither for a group.

* From brackets to the group, items in balance leave the levels around them alone
  (`Build.run_within`).  So the scan does between the brackets what it does with the items by
  themselves, and what it puts onto the level is the group (`Build.exists_group_of_run`).
* From the group to brackets, the grammar has no rule that tells apart two ways of filling the place
  of an operand, so whatever elaborates to the same item may take it
  (`Grammar.Elaborates.replace`).  The look at the item before a bracket does no harm: where the
  bracket would be refused, the level could not have come to its end with the group either.
-/

namespace FileSieve

open Grammar

variable {α ρ : Type}

/-! ## Items in the place of an operand -/

namespace Grammar

/-- An item of two sequences in a row is one of the first or one of the second. -/
lemma append_eq_append_cons {β : Type} {first second front rest : List β} {x : β}
    (h : first ++ second = front ++ x :: rest) :
    (∃ between, first = front ++ x :: between ∧ rest = between ++ second) ∨
      ∃ between, front = first ++ between ∧ second = between ++ x :: rest := by
  rcases List.append_eq_append_iff.mp h with ⟨between, hfront, hsecond⟩ | ⟨between, hfirst, hrest⟩
  · exact .inr ⟨between, hfront, hsecond⟩
  · cases between with
    | nil => exact .inr ⟨[], by simpa using hfirst.symm, by simpa using hrest.symm⟩
    | cons y between =>
      obtain ⟨rfl, rfl⟩ := List.cons.inj hrest
      exact .inl ⟨between, hfirst, rfl⟩

variable {unit : Item α → Item α → Prop} {p : Phrase} {x : Item α}
  {source level front rest items : List (Item α)}

/-- An item in the place of an operand may give it to other items that contribute the same. -/
lemma Elaborates.replace (hx : ∀ op, x ≠ .operator op)
    (hitems : ∀ y, unit x y → Elaborates unit .primary items [y])
    (h : Elaborates unit p source level) (hsource : source = front ++ x :: rest) :
    Elaborates unit p (front ++ (items ++ rest)) level := by
  induction h generalizing front rest with
  | @unit z y h =>
    obtain ⟨rfl, rfl, rfl⟩ : front = [] ∧ z = x ∧ rest = [] := by
      cases front <;> simp_all
    simpa using hitems y h
  | @brackets inner level _ ih =>
    cases front with
    | nil => exact absurd (List.cons.inj hsource).1.symm (hx _)
    | cons f front =>
      obtain ⟨rfl, hinside⟩ := List.cons.inj hsource
      rcases append_eq_append_cons hinside with ⟨between, hinner, rfl⟩ | ⟨between, -, hclose⟩
      · simpa using Elaborates.brackets (ih hinner)
      · -- the item would be the closing bracket
        cases between with
        | nil => exact absurd (List.cons.inj hclose).1.symm (hx _)
        | cons b between => simp at hclose
  | plain _ ih => exact .plain (ih hsource)
  | negated _ ih =>
    cases front with
    | nil => exact absurd (List.cons.inj hsource).1.symm (hx _)
    | cons f front =>
      obtain ⟨rfl, hprimary⟩ := List.cons.inj hsource
      exact .negated (ih hprimary)
  | done => simp at hsource
  | @more op term level tail after hop hterm htail ih ihtail =>
    cases front with
    | nil => exact absurd (List.cons.inj hsource).1.symm (hx _)
    | cons f front =>
      obtain ⟨rfl, hafter⟩ := List.cons.inj hsource
      rcases append_eq_append_cons hafter with ⟨between, hfirst, rfl⟩ | ⟨between, rfl, hsecond⟩
      · simpa using Elaborates.more hop (ih hfirst) htail
      · simpa using Elaborates.more hop hterm (ihtail hsecond)
  | @expression term level tail after hterm htail ih ihtail =>
    rcases append_eq_append_cons hsource with ⟨between, hfirst, rfl⟩ | ⟨between, rfl, hsecond⟩
    · simpa using Elaborates.expression (ih hfirst) htail
    · simpa using Elaborates.expression hterm (ihtail hsecond)

end Grammar

/-! ## Levels that are left alone -/

namespace Build

open Item

/-- The stack with more levels around its own. -/
def Stack.within (around : List (List (Item α))) (s : Stack α) : Stack α :=
  { s with outer := s.outer ++ around }

variable [Operand α ρ] {s next : Stack α} {item : Item α} {around : List (List (Item α))}
  {items inner level : List (Item α)}

/-- An item that closes no level but one of the stack's own has nothing to do with the levels
around. -/
lemma step_within (h : item.isClosing = true → s.outer ≠ []) :
    step (s.within around) item = (step s item).map (Stack.within around) := by
  obtain ⟨level, outer⟩ := s
  cases item with
  | operand a =>
    simp only [step, refusal?, Stack.within]
    cases Operand.prepare a <;> rfl
  | group inner =>
    simp only [step, Stack.within]
    cases refusal? level.head? (.group inner) <;> rfl
  | operator op =>
    cases op with
    | and | or | not | openBracket =>
      simp only [step, Stack.within]
      cases refusal? level.head? (.operator _) <;> rfl
    | closeBracket =>
      cases outer with
      | nil => exact absurd rfl (h rfl)
      | cons first further =>
        simp only [step, Stack.within, List.cons_append]
        cases refusal? level.head? (.operator .closeBracket) with
        | some e => rfl
        | none =>
          by_cases halternates : alternates true level.reverse = true
          · simp [halternates, Except.map, Stack.within]
          · simp [halternates, Except.map]

/-- **Items in balance leave the levels around them alone.** -/
lemma run_within (h : Balanced s.outer.length items) :
    run (s.within around) items = (run s items).map (Stack.within around) := by
  induction items generalizing s with
  | nil => rfl
  | cons item items ih =>
    rw [run_cons, run_cons, step_within (outer_ne_nil_of_isClosing h)]
    cases hnext : step s item with
    | error e => rfl
    | ok next => exact ih (balanced_of_step h hnext)

/-! ## From brackets to a group -/

/-- What elaborates is what the scan takes in and closes. -/
lemma elaborates_iff_run : Elaborates BuildsTo .expression items level ↔
    ∃ s, run ⟨[], []⟩ items = .ok s ∧ close s = .ok level := by
  rw [← place_eq_ok_iff, place_result ⟨[], []⟩ items, bind_eq_ok_iff]

/-- Between brackets, the scan makes a group of what the items make up by themselves. -/
lemma exists_group_of_run (hinner : Balanced 0 inner)
    (h : run s (.operator .openBracket :: (inner ++ [.operator .closeBracket])) = .ok next) :
    ∃ members, Elaborates BuildsTo .expression inner members ∧ members ≠ [] ∧
      next = s.push [.group members] := by
  rw [run_cons, bind_eq_ok_iff] at h
  obtain ⟨opened, hopen, h⟩ := h
  rw [run_append, bind_eq_ok_iff] at h
  obtain ⟨filled, hfill, hclose⟩ := h
  -- the bracket opens a level like the outermost one, with the levels so far around it
  obtain rfl : opened = Stack.within (s.level :: s.outer) ⟨[], []⟩ := by
    cases moves_of_step hopen with
    | openBracket _ => rfl
    | connective hop _ => simp [Operator.isBinary] at hop
  rw [run_within (s := ⟨[], []⟩) hinner, map_eq_ok_iff] at hfill
  obtain ⟨⟨inside, outer⟩, hrun, rfl⟩ := hfill
  obtain rfl : outer = [] := outer_eq_nil_of_balanced hinner hrun
  rw [run_cons, bind_eq_ok_iff] at hclose
  obtain ⟨last, hlast, hnext⟩ := hclose
  cases hnext
  cases moves_of_step hlast with
  | connective hop _ => simp [Operator.isBinary] at hop
  | @closeBracket members _ _ halternates =>
    refine ⟨members, elaborates_iff_run.mpr ⟨_, hrun, ?_⟩, ?_, rfl⟩
    · simp [close, halternates]
    · rintro rfl
      simp [alternates] at halternates

/-- Brackets around items in balance may be taken for a group, and a group for brackets. -/
lemma elaborates_brackets_iff {front rest : List (Item α)} (hinner : Balanced 0 inner) :
    Elaborates BuildsTo .expression
        (front ++ .operator .openBracket :: (inner ++ .operator .closeBracket :: rest)) level ↔
      ∃ members, Elaborates BuildsTo .expression inner members ∧ members ≠ [] ∧
        Elaborates BuildsTo .expression (front ++ .group members :: rest) level := by
  constructor
  · intro h
    obtain ⟨last, hrun, hclose⟩ := elaborates_iff_run.mp h
    rw [run_append, bind_eq_ok_iff] at hrun
    obtain ⟨s, hfront, hrun⟩ := hrun
    have hshape : Item.operator .openBracket :: (inner ++ .operator .closeBracket :: rest) =
        (.operator .openBracket :: (inner ++ [.operator .closeBracket])) ++ rest := by simp
    rw [hshape, run_append, bind_eq_ok_iff] at hrun
    obtain ⟨next, hbrackets, hrest⟩ := hrun
    obtain ⟨members, helaborates, hne, rfl⟩ := exists_group_of_run hinner hbrackets
    refine ⟨members, helaborates, hne, elaborates_iff_run.mpr ⟨last, ?_, hclose⟩⟩
    rw [run_append_of_run hfront, run_cons_of_moves (.group hne), hrest]
  · rintro ⟨members, helaborates, -, h⟩
    have hbrackets : ∀ y, BuildsTo (.group members) y → Elaborates BuildsTo .primary
        (.operator .openBracket :: (inner ++ [.operator .closeBracket])) [y] := by
      intro y hy
      cases hy with
      | group _ => exact .brackets helaborates
    have hreplaced := h.replace (by simp) hbrackets rfl
    simpa using hreplaced

end Build

/-! ## Building -/

namespace Expression

variable [Operand α ρ]

/-- **Brackets and ready-made groups are interchangeable.**  Items with a part between brackets
build an expression if and only if the part by itself builds one that is not empty and the items
build the same expression with that one in the place of the brackets.  So nothing about an
expression, its text, operands, needs and values included, tells in which of the two ways it was
built. -/
theorem build_brackets_iff {inner : List (Item α)} (hinner : Item.Balanced 0 inner)
    (front rest : List (Item α)) (e : Expression α) :
    build (front ++ .operator .openBracket :: (inner ++ .operator .closeBracket :: rest)) = .ok e ↔
      ∃ s : Expression α, build inner = .ok s ∧ s.items ≠ [] ∧
        build (front ++ .group s.items :: rest) = .ok e := by
  have hne : ∀ (x : Item α) items, front ++ x :: items ≠ [] := by simp
  rw [build_eq_ok_iff, Build.elaborates_brackets_iff hinner]
  constructor
  · rintro (⟨hempty, -⟩ | ⟨members, hmembers, hnonempty, h⟩)
    · exact absurd hempty (hne _ _)
    · exact ⟨⟨members⟩, build_eq_ok_iff.mpr (.inr hmembers), hnonempty,
        build_eq_ok_iff.mpr (.inr h)⟩
  · rintro ⟨s, hs, hnonempty, h⟩
    have hmembers := (build_eq_ok_iff.mp hs).resolve_left fun hempty => hnonempty hempty.2
    have hwhole := (build_eq_ok_iff.mp h).resolve_left fun hempty => hne _ _ hempty.1
    exact .inr ⟨s.items, hmembers, hnonempty, hwhole⟩

/-- Items with brackets inside, to be put between a negation and a connective. -/
def insideItems : List (Item Builtin) :=
  [.operand (.size .larger "1K" none), .operator .or, .operator .openBracket,
    .operand (.fileType "d" none), .operator .closeBracket]

/-- What `insideItems` build. -/
def inside : Expression Builtin where
  items :=
    [.operand (.size .larger "1K" (some 1024)), .operator .or,
      .group [.operand (.fileType "d" (some .dir))]]

/-- What `insideItems` build with a negation before them and another operand after them. -/
def surrounded : Expression Builtin where
  items :=
    [.operator .not, .group inside.items, .operator .and,
      .operand (.fileType "f" (some .file))]

theorem build_brackets_iff_surrounded :
    Item.Balanced 0 insideItems ∧ build insideItems = .ok inside ∧
      inside.items ≠ [] ∧
      build [.operator .not, .group inside.items, .operator .and,
        .operand (.fileType "f" none)] = .ok surrounded ∧
      build (.operator .not :: .operator .openBracket :: (insideItems ++
        [.operator .closeBracket, .operator .and, .operand (.fileType "f" none)])) =
          .ok surrounded := by
  have hinner : Item.Balanced 0 insideItems := (Build.balanced_iff 0 _).mp rfl
  have hinside : build insideItems = .ok inside := by rfl
  have hgroup : build [.operator .not, .group inside.items, .operator .and,
      .operand (.fileType "f" none)] = .ok surrounded := by rfl
  have hbrackets := (build_brackets_iff hinner [.operator .not]
    [.operator .and, .operand (.fileType "f" none)] surrounded).mpr
      ⟨inside, hinside, by simp [inside], hgroup⟩
  exact ⟨hinner, hinside, by simp [inside], hgroup, hbrackets⟩

end Expression

end FileSieve
