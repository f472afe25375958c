import Mathlib.Data.List.Basic
import FileSieve.Proofs.Builtin.Naming
import FileSieve.Proofs.Expression.Built
import FileSieve.Proofs.Expression.Item

/-!
# Flat forms

The flat form of an expression has its groups written out between brackets (`Expression.flatten`).
Building keeps it: what is built has the flat form of the input, in which nothing has changed except
that each operand is prepared (`Item.prepare`).  So no item gets lost, none is taken up twice, and
none moves to another place.  The other way round, the flat form of a built expression is an input
from which the same expression is built, group by group, if its operands have nothing left to
prepare.  Both are statements about one phrase of the grammar at a time
(`Elaborates.exists_prepared` and `Elaborates.ofFlat`), put together in
`Expression.build_keeps_items`.

Operands are taken along, since flattening neither drops nor moves any
(`Item.sequenceOperands_flattenAll`).
-/

namespace FileSieve

open Grammar

variable {α ρ : Type}

namespace Item

/-! ## Flattening -/

lemma flattenAll_eq_flatMap (items : List (Item α)) : flattenAll items = items.flatMap flatten := by
  induction items with
  | nil => rfl
  | cons x items ih => rw [flattenAll, ih, List.flatMap_cons]

lemma flattenAll_append (items rest : List (Item α)) :
    flattenAll (items ++ rest) = flattenAll items ++ flattenAll rest := by
  simp only [flattenAll_eq_flatMap, List.flatMap_append]

lemma flattenAll_group (items : List (Item α)) :
    flattenAll [.group items] =
      .operator .openBracket :: (flattenAll items ++ [.operator .closeBracket]) := by
  simp [flattenAll, flatten]

lemma sequenceOperands_flatten (x : Item α) : sequenceOperands x.flatten = x.operands := by
  induction x using Item.induction with
  | operator op => rfl
  | operand a => rfl
  | group items ih =>
    have hitems : (flattenAll items).flatMap operands = items.flatMap operands := by
      rw [flattenAll_eq_flatMap, List.flatMap_assoc]
      refine List.flatMap_congr fun x hx => ?_
      rw [← sequenceOperands_eq_flatMap, ih x hx]
    simp [flatten, operands, sequenceOperands_eq_flatMap, hitems]

/-- Flattening drops no operand and moves none. -/
lemma sequenceOperands_flattenAll (items : List (Item α)) :
    sequenceOperands (flattenAll items) = sequenceOperands items := by
  have hgroup := sequenceOperands_flatten (.group items)
  simpa [flatten, operands, sequenceOperands_eq_flatMap] using hgroup

/-- The item with its operand prepared, or why that is refused.  A group stays as it is. -/
def prepare [Operand α ρ] : Item α → Except ρ (Item α)
  | .operator op => .ok (.operator op)
  | .operand a => (Operand.prepare a).map .operand
  | .group items => .ok (.group items)

end Item

namespace Grammar

open Item

variable [Operand α ρ] {p : Phrase} {items level ready ready' rest : List (Item α)}

/-! ## From the input to the level -/

lemma mapM_prepare_append (h : items.mapM Item.prepare = .ok ready)
    (hrest : rest.mapM Item.prepare = .ok ready') :
    (items ++ rest).mapM Item.prepare = .ok (ready ++ ready') := by
  rw [List.mapM_append, h, hrest]
  rfl

lemma mapM_prepare_operator (op : Operator) (h : items.mapM Item.prepare = .ok ready) :
    (.operator op :: items).mapM Item.prepare = .ok (.operator op :: ready) := by
  rw [List.mapM_cons, h]
  rfl

lemma mapM_prepare_singleton {x y : Item α} (h : BuildsTo x y) :
    [x].mapM Item.prepare = .ok [y] := by
  cases h with
  | operand h => simp [Item.prepare, h, Except.map]
  | group h => simp [Item.prepare]

/-- A phrase contributes the items of the input with their operands prepared, but for its brackets,
which have become groups. -/
lemma Elaborates.exists_prepared (h : Elaborates BuildsTo p items level) :
    ∃ ready, items.mapM Item.prepare = .ok ready ∧ flattenAll level = flattenAll ready := by
  induction h with
  | unit h => exact ⟨_, mapM_prepare_singleton h, rfl⟩
  | brackets _ ih =>
    obtain ⟨ready, hready, hflat⟩ := ih
    have hclose : [Item.operator .closeBracket].mapM Item.prepare =
        (.ok [.operator .closeBracket] : Except ρ (List (Item α))) := rfl
    refine ⟨.operator .openBracket :: (ready ++ [.operator .closeBracket]),
      mapM_prepare_operator _ (mapM_prepare_append hready hclose), ?_⟩
    rw [flattenAll_group, hflat, flattenAll, flattenAll_append]
    rfl
  | plain _ ih => exact ih
  | negated _ ih =>
    obtain ⟨ready, hready, hflat⟩ := ih
    refine ⟨_, mapM_prepare_operator _ hready, ?_⟩
    rw [flattenAll, hflat, flattenAll]
  | done => exact ⟨[], rfl, rfl⟩
  | more _ _ _ ih ihrest =>
    obtain ⟨ready, hready, hflat⟩ := ih
    obtain ⟨after, hafter, hflatRest⟩ := ihrest
    refine ⟨_, mapM_prepare_operator _ (mapM_prepare_append hready hafter), ?_⟩
    simp only [flattenAll, flattenAll_append, hflat, hflatRest]
  | expression _ _ ih ihrest =>
    obtain ⟨ready, hready, hflat⟩ := ih
    obtain ⟨after, hafter, hflatRest⟩ := ihrest
    refine ⟨_, mapM_prepare_append hready hafter, ?_⟩
    simp only [flattenAll_append, hflat, hflatRest]

/-! ## From the level to the input -/

lemma forall_mem_sequenceOperands_append {P : α → Prop} :
    (∀ a ∈ sequenceOperands (items ++ rest), P a) ↔
      (∀ a ∈ sequenceOperands items, P a) ∧ ∀ a ∈ sequenceOperands rest, P a := by
  simp only [sequenceOperands_eq_flatMap, List.flatMap_append, List.forall_mem_append]

/-- The flat form of a level elaborates to the level, bracket by bracket, if its operands have
nothing left to prepare. -/
lemma Elaborates.ofFlat (h : Elaborates PreparesTo p items level)
    (hself : ∀ a ∈ sequenceOperands level, Operand.prepare a = .ok a) :
    Elaborates BuildsTo p (flattenAll level) level := by
  induction h with
  | unit h =>
    cases h with
    | @operand _ b _ => exact .unit (.operand (hself b (by simp [sequenceOperands, operands])))
  | brackets _ ih =>
    rw [flattenAll_group]
    exact .brackets (ih (by simpa [sequenceOperands, operands] using hself))
  | plain _ ih => exact .plain (ih hself)
  | negated _ ih => exact .negated (ih hself)
  | done => exact .done
  | @more op _ level _ after hop _ _ ih ihrest =>
    have hlevels : ∀ a ∈ sequenceOperands (level ++ after), Operand.prepare a = .ok a := hself
    obtain ⟨hlevel, hafter⟩ := forall_mem_sequenceOperands_append.mp hlevels
    have hmore := Elaborates.more hop (ih hlevel) (ihrest hafter)
    rwa [← flattenAll_append] at hmore
  | expression _ _ ih ihrest =>
    obtain ⟨hlevel, hafter⟩ := forall_mem_sequenceOperands_append.mp hself
    rw [flattenAll_append]
    exact .expression (ih hlevel) (ihrest hafter)

/-- The operands of a level have come out of preparation. -/
lemma Elaborates.exists_prepare_eq (h : Elaborates PreparesTo p items level) :
    ∀ b ∈ sequenceOperands level, ∃ a, Operand.prepare a = .ok b := by
  induction h with
  | unit h =>
    cases h with
    | operand h => simpa [sequenceOperands, operands] using ⟨_, h⟩
  | brackets _ ih => simpa [sequenceOperands, operands] using ih
  | plain _ ih => exact ih
  | negated _ ih => exact ih
  | done => simp [sequenceOperands]
  | more _ _ _ ih ihrest => exact forall_mem_sequenceOperands_append.mpr ⟨ih, ihrest⟩
  | expression _ _ ih ihrest => exact forall_mem_sequenceOperands_append.mpr ⟨ih, ihrest⟩

end Grammar

/-- A built-in operand that is prepared has nothing left to prepare. -/
lemma Builtin.prepare_of_prepare {a b : Builtin} (h : prepare a = .ok b) :
    prepare b = .ok b := by
  cases a with
  | pattern | fileType | newer | size =>
    simp only [prepare] at h
    split at h
    · next hread =>
      cases h
      simp only [prepare, hread]
    · contradiction

namespace Expression

/-- What is built has the items of the input in its flat form, each operand prepared. -/
lemma flatten_of_build [Operand α ρ] {items : List (Item α)} {e : Expression α}
    (h : build items = .ok e) :
    ∃ ready, items.mapM Item.prepare = .ok ready ∧ e.flatten = Item.flattenAll ready := by
  obtain ⟨rfl, hempty⟩ | helaborates := build_eq_ok_iff.mp h
  · refine ⟨[], rfl, ?_⟩
    rw [flatten, hempty]
  · exact helaborates.exists_prepared

/-- A built expression is what its flat form builds, if its operands have nothing left to
prepare. -/
lemma build_flatten [Operand α ρ] {e : Expression α} (h : e.Built)
    (hself : ∀ a ∈ e.operands, Operand.prepare a = .ok a) : build e.flatten = .ok e := by
  rw [build_eq_ok_iff]
  obtain hempty | ⟨source, helaborates⟩ := h.elaborates
  · left
    simp [flatten, hempty, Item.flattenAll]
  · exact .inr (helaborates.ofFlat hself)

/-- The operands of a built expression have come out of preparation. -/
lemma Built.exists_prepare_eq [Operand α ρ] {e : Expression α} (h : e.Built) :
    ∀ b ∈ e.operands, ∃ a, Operand.prepare a = .ok b := by
  obtain hempty | ⟨source, helaborates⟩ := h.elaborates
  · simp [operands, hempty, Item.sequenceOperands]
  · exact helaborates.exists_prepare_eq

/-- **Building loses, duplicates and moves nothing.**  The flat form of what is built is the input
with each operand prepared and each ready-made group written out, so its operands are those of the
input in their order.  A built expression comes back from its flat form if its operands prepare to
themselves, as the built-in ones do. -/
theorem build_keeps_items :
    (∀ {α ρ : Type} [Operand α ρ] (items : List (Item α)) (e : Expression α),
      build items = .ok e → ∃ ready, items.mapM Item.prepare = .ok ready ∧
        e.flatten = Item.flattenAll ready ∧ e.operands = ready.flatMap Item.operands) ∧
    (∀ {α ρ : Type} [Operand α ρ] (e : Expression α), e.Built →
      (∀ a ∈ e.operands, Operand.prepare a = .ok a) → build e.flatten = .ok e) ∧
    ∀ e : Expression Builtin, e.Built → build e.flatten = .ok e := by
  refine ⟨?_, fun e h hself => build_flatten h hself, ?_⟩
  · intro α ρ _ items e h
    obtain ⟨ready, hready, hflat⟩ := flatten_of_build h
    refine ⟨ready, hready, hflat, ?_⟩
    calc e.operands = Item.sequenceOperands e.flatten :=
          (Item.sequenceOperands_flattenAll e.items).symm
      _ = Item.sequenceOperands ready := by rw [hflat, Item.sequenceOperands_flattenAll]
      _ = ready.flatMap Item.operands := Item.sequenceOperands_eq_flatMap ready
  · intro e h
    refine build_flatten h fun b hb => ?_
    obtain ⟨a, ha⟩ := h.exists_prepare_eq b hb
    exact Builtin.prepare_of_prepare ha

/-- Items with brackets around an operand and a ready-made group. -/
def nestedItems : List (Item Builtin) :=
  [.operator .not, .operator .openBracket, .operand (.fileType "d" none), .operator .or,
    .group [.operand (.newer "2024-02-29" (some ⟨1709164800, 0⟩))], .operator .closeBracket,
    .operator .and, .operand (.size .larger "1K" none)]

/-- What `nestedItems` build. -/
def nested : Expression Builtin where
  items :=
    [.operator .not,
      .group [.operand (.fileType "d" (some .dir)), .operator .or,
        .group [.operand (.newer "2024-02-29" (some ⟨1709164800, 0⟩))]],
      .operator .and, .operand (.size .larger "1K" (some 1024))]

theorem build_keeps_items_nested :
    build nestedItems = .ok nested ∧
      (∃ ready, nestedItems.mapM Item.prepare = .ok ready ∧
        nested.flatten = Item.flattenAll ready ∧
        nested.operands = ready.flatMap Item.operands) ∧
      nested.Built ∧ (∀ a ∈ nested.operands, Operand.prepare a = .ok a) ∧
      build nested.flatten = .ok nested := by
  have hbuild : build nestedItems = .ok nested := by rfl
  have hparse : Registry.builtins.parse "!(type=d || (newer=2024-02-29)) && file-larger=1K" =
      .ok nested := by rfl
  have hself : ∀ a ∈ nested.operands, Operand.prepare a = .ok a := by
    simp only [operands, nested, Item.sequenceOperands, Item.operands, List.cons_append,
      List.nil_append, List.append_nil, List.forall_mem_cons, List.not_mem_nil]
    exact ⟨rfl, rfl, rfl, by simp⟩
  obtain ⟨hkeeps, hback, -⟩ := build_keeps_items
  exact ⟨hbuild, hkeeps nestedItems nested hbuild, .parse hparse, hself,
    hback nested (.parse hparse) hself⟩

end Expression

end FileSieve
