import FileSieve.Proofs.Expression.FirstEvent
import FileSieve.Proofs.Expression.Flattening

/-!
# Operands are prepared once, in order

A build asks the operands of its input to prepare themselves (`Expression.preparations`).  It asks
those that stand among the items themselves, between whatever brackets (`Item.ownOperands`), and none
of those inside ready-made groups, which have been prepared before.

The scan asks as it goes: each item that it reads adds its own operand, if it is one, and then the
rest of the input is asked or, if the item is refused, nothing more (`Build.place_cons`).  So
a run asks all operands of the items that it has taken in (`Build.place_prepared_of_run`), and none
of these has refused (`Build.prepares_of_run`).  What a failing build has asked follows from where it
fails (`Expression.build_fails`), and what a built expression holds from its flat form.
-/

namespace FileSieve

variable {α ρ : Type}

namespace Item

/-! ## Operands among the items -/

/-- The operands that stand among the items themselves, not inside groups. -/
def ownOperands (items : List (Item α)) : List α := items.filterMap operand?

variable {x : Item α} {items front rest : List (Item α)}

@[simp] lemma ownOperands_nil : ownOperands ([] : List (Item α)) = [] := rfl

lemma ownOperands_singleton : ownOperands [x] = x.operand?.toList := by
  cases x <;> rfl

lemma ownOperands_append : ownOperands (front ++ rest) = ownOperands front ++ ownOperands rest :=
  List.filterMap_append

lemma ownOperands_cons : ownOperands (x :: items) = ownOperands [x] ++ ownOperands items := by
  rw [← ownOperands_append, List.singleton_append]

lemma mem_ownOperands_singleton {a : α} : a ∈ ownOperands [x] ↔ x = .operand a := by
  cases x <;> simp [ownOperands, operand?, eq_comm]

lemma ownOperands_take_prefix (n : Nat) : ownOperands (items.take n) <+: ownOperands items :=
  (List.take_prefix n items).filterMap operand?

variable [Operand α ρ] {ready : List (Item α)}

/-- Where items are prepared, the operands among them are, and nothing else becomes an operand. -/
lemma forall₂_ownOperands (h : List.Forall₂ (fun x y => Item.prepare x = .ok y) items ready) :
    List.Forall₂ (fun a b => Operand.prepare a = .ok b) (ownOperands items) (ownOperands ready) := by
  induction h with
  | nil => exact .nil
  | @cons x y items ready hx _ ih =>
    cases x with
    | operand a =>
      obtain ⟨b, hprepare, rfl⟩ := map_eq_ok_iff.mp hx
      exact .cons hprepare ih
    | operator op =>
      cases hx
      exact ih
    | group inner =>
      cases hx
      exact ih

end Item

namespace Build

open Item

variable [Operand α ρ] {s next : Stack α} {item : Item α} {items front rest : List (Item α)}
  {e : ExpressionError ρ}

/-! ## What the scan asks -/

/-- At the end of the input nothing is asked. -/
lemma place_prepared_nil (s : Stack α) : (place s.outer s.level []).prepared = [] := by
  obtain ⟨level, outer⟩ := s
  cases outer with
  | nil =>
    rw [place]
    split <;> rfl
  | cons around further => rfl

/-- A run asks the operands of its items, in order. -/
lemma place_prepared_of_run (h : run s front = .ok next) (rest : List (Item α)) :
    (place s.outer s.level (front ++ rest)).prepared =
      ownOperands front ++ (place next.outer next.level rest).prepared := by
  induction front generalizing s with
  | nil =>
    cases h
    rfl
  | cons item front ih =>
    rw [run_cons, bind_eq_ok_iff] at h
    obtain ⟨following, hstep, hfront⟩ := h
    rw [List.cons_append, place_cons, hstep, ownOperands_cons, List.append_assoc, ← ih hfront,
      ownOperands_singleton]

lemma prepared_of_run (h : run ⟨[], []⟩ items = .ok s) :
    (place [] [] items).prepared = ownOperands items := by
  have hitems := place_prepared_of_run h []
  rwa [place_prepared_nil, List.append_nil, List.append_nil] at hitems

/-- The operands after a refused item are not asked. -/
lemma prepared_of_refused (h : run ⟨[], []⟩ front = .ok s) (hstep : step s item = .error e)
    (rest : List (Item α)) :
    (place [] [] (front ++ item :: rest)).prepared = ownOperands (front ++ [item]) := by
  rw [place_prepared_of_run h (item :: rest), place_cons, hstep, ownOperands_append,
    ownOperands_singleton]

/-! ## What becomes of the operands -/

/-- A run takes in an operand only if it can be prepared. -/
lemma prepares_of_run (h : run s items = .ok next) :
    ∀ a ∈ ownOperands items, ∃ b, Operand.prepare a = .ok b := by
  induction items generalizing s with
  | nil => simp
  | cons item items ih =>
    rw [run_cons, bind_eq_ok_iff] at h
    obtain ⟨following, hstep, hitems⟩ := h
    have hitem : ∀ a ∈ ownOperands [item], ∃ b, Operand.prepare a = .ok b := by
      intro a ha
      obtain rfl := mem_ownOperands_singleton.mp ha
      cases moves_of_step hstep with
      | operand hprepare => exact ⟨_, hprepare⟩
    rw [ownOperands_cons, List.forall_mem_append]
    exact ⟨hitem, ih hitems⟩

/-- A refusal that is an operand's own comes from the item at hand. -/
lemma operand_of_step {reason : ρ} (h : step s item = .error (.operand reason)) :
    ∃ a, item = .operand a ∧ Operand.prepare a = .error reason := by
  cases faults_of_step h with
  | operand hprepare => exact ⟨_, rfl, hprepare⟩

/-- Ending the input refuses no operand. -/
lemma operand_not_close {reason : ρ} : close s ≠ .error (.operand reason) := by
  unfold close
  split
  · split <;> simp
  · simp

end Build

namespace Expression

open Item

variable [Operand α ρ] {items : List (Item α)}

/-- A build that succeeds has asked all operands among its items. -/
lemma preparations_of_build {e : Expression α} (h : build items = .ok e) :
    preparations items = ownOperands items := by
  by_cases hne : items = []
  · subst hne
    rfl
  · have hbalanced : Item.Balanced 0 items := by
      by_contra hnot
      rw [build, Build.items_of_not_balanced hnot] at h
      cases h
    rw [build, Build.items_of_balanced hne hbalanced, map_eq_ok_iff] at h
    obtain ⟨level, hplace, -⟩ := h
    rw [Build.place_result ⟨[], []⟩ items, bind_eq_ok_iff] at hplace
    obtain ⟨s, hrun, -⟩ := hplace
    rw [preparations, Build.items_of_balanced hne hbalanced, Build.prepared_of_run hrun]

/-- Where a build fails: at the look ahead, or at an item of the scan, or at its end. -/
lemma build_fails {e : ExpressionError ρ} (h : build items = .error e) :
    (¬ Item.Balanced 0 items ∧ e = .grammar .unbalancedBrackets ∧ preparations items = []) ∨
      (∃ front item rest s, items = front ++ item :: rest ∧ Build.run ⟨[], []⟩ front = .ok s ∧
        Build.step s item = .error e ∧
        Build.FirstEvent items front.length e ∧
        preparations items = ownOperands (front ++ [item])) ∨
      ∃ s : Build.Stack α, Build.close s = .error e ∧ Build.FirstEvent items items.length e ∧
        preparations items = ownOperands items := by
  by_cases hbalanced : Item.Balanced 0 items
  · right
    have hne : items ≠ [] := by
      rintro rfl
      cases h
    rw [build, map_eq_error_iff, Build.items_of_balanced hne hbalanced] at h
    rw [preparations, Build.items_of_balanced hne hbalanced]
    rcases Build.place_eq_error_iff.mp h with
      ⟨front, item, rest, s, rfl, hrun, hstep⟩ | ⟨s, hrun, hclose⟩
    · exact .inl ⟨front, item, rest, s, rfl, hrun, hstep,
        Build.firstEvent_of_step hbalanced hrun hstep, Build.prepared_of_refused hrun hstep rest⟩
    · exact .inr ⟨s, hclose, Build.firstEvent_of_close hne hbalanced hrun hclose,
        Build.prepared_of_run hrun⟩
  · left
    have herror := build_eq_unbalancedBrackets_iff.mpr hbalanced
    rw [h, Except.error.injEq] at herror
    exact ⟨hbalanced, herror, preparations_of_not_balanced hbalanced⟩

/-- A failing build has asked nothing, or the operands up to the first event. -/
lemma preparations_upTo {e : ExpressionError ρ} (h : build items = .error e) :
    (¬ Item.Balanced 0 items ∧ preparations items = []) ∨
      ∃ n, Build.FirstEvent items n e ∧ preparations items = ownOperands (items.take (n + 1)) := by
  rcases build_fails h with ⟨hnot, -, hnone⟩ | ⟨front, item, rest, s, rfl, -, -, hevent, hfront⟩ |
    ⟨s, -, hevent, hall⟩
  · exact .inl ⟨hnot, hnone⟩
  · right
    refine ⟨front.length, hevent, ?_⟩
    rw [hfront, List.take_length_add_append]
    rfl
  · right
    refine ⟨items.length, hevent, ?_⟩
    rw [hall, List.take_of_length_le (Nat.le_succ _)]

/-- The operand whose refusal is the error is the last one asked, after others that did not
refuse. -/
lemma preparations_of_refusal {reason : ρ} (h : build items = .error (.operand reason)) :
    ∃ earlier last, preparations items = earlier ++ [last] ∧
      (∀ a ∈ earlier, ∃ b, Operand.prepare a = .ok b) ∧ Operand.prepare last = .error reason := by
  rcases build_fails h with ⟨-, herror, -⟩ | ⟨front, item, rest, s, -, hrun, hstep, -, hfront⟩ |
    ⟨s, hclose, -, -⟩
  · cases herror
  · obtain ⟨a, rfl, hprepare⟩ := Build.operand_of_step hstep
    refine ⟨ownOperands front, a, ?_, Build.prepares_of_run hrun, hprepare⟩
    rw [hfront, ownOperands_append]
    rfl
  · exact absurd hclose Build.operand_not_close

/-- **Operands are prepared once, in order.**  Building asks a front part of the operands that stand
among the items to prepare themselves, each one once, and none inside a ready-made group.  If it
succeeds it has asked all of them, and the expression holds what they have returned, next to the
operands of ready-made groups, and no others.  If an operand refuses, that is the last one asked, and
its reason is the error.  A failing build asks no operand beyond the point where it fails: the first
event, or the look ahead at the brackets. -/
theorem preparations_in_order (items : List (Item α)) :
    preparations items <+: ownOperands items ∧
    (∀ e, build items = .ok e →
      preparations items = ownOperands items ∧
      ∃ ready, List.Forall₂ (fun x y => Item.prepare x = .ok y) items ready ∧
        List.Forall₂ (fun a b => Operand.prepare a = .ok b) (preparations items)
          (ownOperands ready) ∧
        e.operands = ready.flatMap Item.operands) ∧
    (∀ reason, build items = .error (.operand reason) →
      ∃ earlier last, preparations items = earlier ++ [last] ∧
        (∀ a ∈ earlier, ∃ b, Operand.prepare a = .ok b) ∧
        Operand.prepare last = .error reason) ∧
    (∀ error, build items = .error error →
      (¬ Item.Balanced 0 items ∧ preparations items = []) ∨
        ∃ n, Build.FirstEvent items n error ∧
          preparations items = ownOperands (items.take (n + 1))) := by
  refine ⟨?_, fun e h => ?_, fun reason h => preparations_of_refusal h,
    fun error h => preparations_upTo h⟩
  · cases h : build items with
    | ok e => simp [preparations_of_build h]
    | error e =>
      rcases preparations_upTo h with ⟨-, hnone⟩ | ⟨n, -, hfront⟩
      · rw [hnone]
        exact List.nil_prefix
      · rw [hfront]
        exact ownOperands_take_prefix (n + 1)
  · obtain ⟨ready, hready, hflat⟩ := flatten_of_build h
    have hprepared := mapM_eq_ok_iff.mp hready
    refine ⟨preparations_of_build h, ready, hprepared, ?_, ?_⟩
    · rw [preparations_of_build h]
      exact forall₂_ownOperands hprepared
    · calc e.operands = sequenceOperands e.flatten := (sequenceOperands_flattenAll e.items).symm
        _ = sequenceOperands ready := by rw [hflat, sequenceOperands_flattenAll]
        _ = ready.flatMap Item.operands := sequenceOperands_eq_flatMap ready

/-- An operand that refuses its value between brackets, with operands before and after it and a
connective at the end. -/
def refusedItems : List (Item Builtin) :=
  [.operand (.fileType "d" none), .operator .and, .group [.operand (.fileType "x" none)],
    .operator .or, .operator .openBracket, .operand (.size .larger "some" none), .operator .or,
    .operand (.fileType "f" none), .operator .closeBracket, .operator .and]

theorem preparations_in_order_refused :
    preparations nestedItems =
        [.fileType "d" none, .size .larger "1K" none] ∧
      nested.operands = [.fileType "d" (some .dir), .newer "2024-02-29" (some ⟨1709164800, 0⟩),
        .size .larger "1K" (some 1024)] ∧
      preparations refusedItems = [.fileType "d" none, .size .larger "some" none] ∧
      preparations refusedItems <+: ownOperands refusedItems ∧
      ∃ n, Build.FirstEvent refusedItems n (.operand (.size "some")) ∧
        preparations refusedItems = ownOperands (refusedItems.take (n + 1)) := by
  have hbuild : build refusedItems = .error (.operand (.size "some")) := by rfl
  obtain ⟨hfront, -, -, hupTo⟩ := preparations_in_order refusedItems
  refine ⟨rfl, rfl, rfl, hfront, ?_⟩
  rcases hupTo _ hbuild with ⟨hnot, -⟩ | hevent
  · exact absurd ((Build.balanced_iff 0 refusedItems).mp rfl) hnot
  · exact hevent

end Expression

end FileSieve
