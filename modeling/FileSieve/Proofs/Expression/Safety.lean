import FileSieve.Builtin
import FileSieve.Proofs.Expression.Evaluation
import FileSieve.Proofs.Expression.Level

/-!
# Built expressions evaluate without a fault

The evaluation of a level keeps at most two values and two operators, and it has no answer when a
third one arrives or when two values meet without a connective.  This file proves that a level of a
built expression never comes that far, and that it has settled to one value when its items run out.

`Evaluation.Reaches` lists the states that a level can come to.  It lets every term come to any
value at any time, so what holds of all these states does not depend on what the operands do.
`Evaluation.Fits` is the invariant: what is pending decides what the rest of the chain has to begin
with.  One item preserves it (`Fits.accept`), hence a run does (`Reaches.fits`), and a state that
fits has no fault ahead (`safe_of_isChain`).  That real evaluations are among these runs is
`Reaches.exists_outcome`; from there the main result `Expression.Built.levels_safe` follows at every
depth.
-/

namespace FileSieve

open Grammar Level

variable {α ρ : Type}

namespace Evaluation

/-! ## The states of a level -/

/-- The states that a level can come to: what is pending and the items that are left, if the terms
so far had any values. -/
inductive Reaches (level : List (Item α)) : Pending → List (Item α) → Prop
  | start : Reaches level {} level
  | accept {p next : Pending} {item : Item α} {rest : List (Item α)} {v : Bool}
      (h : Reaches level p (item :: rest)) (haccept : p.accept item (.ok v) = .ok (some next)) :
      Reaches level next rest

/-- A level that runs into no fault, whatever its terms come to, and that has settled to one value
when its items run out. -/
structure Safe (level : List (Item α)) : Prop where
  accept_ne_error : ∀ p item rest, Reaches level p (item :: rest) →
    ∀ v fault, p.accept item (.ok v) ≠ .error fault
  settled : ∀ p, Reaches level p [] → ∃ v, p = { values := [v] }

/-! ## The invariant -/

/-- What is pending where a term is wanted, with no negation before it yet. -/
inductive WantsTerm : Pending → Prop
  | first : WantsTerm {}
  | joined (v : Bool) {op : Operator} (hop : op.isBinary = true) :
      WantsTerm { values := [v], operators := [op] }

/-- What is pending fits the items that are left on a chain. -/
inductive Fits : Pending → List (Item α) → Prop
  | wanting {p : Pending} {rest : List (Item α)} (hp : WantsTerm p) (h : IsChain rest) : Fits p rest
  | negated {p : Pending} {x : Item α} {rest : List (Item α)} (hp : WantsTerm p)
      (hx : x.isTerm = true) (h : Continues rest) :
      Fits { p with operators := .not :: p.operators } (x :: rest)
  | settled (v : Bool) {rest : List (Item α)} (h : Continues rest) :
      Fits { values := [v] } rest

/-- An item that is taken in decides the level, or leaves a state that fits. -/
def Accepted (rest : List (Item α)) (result : Except Fault (Option Pending)) : Prop :=
  result = .ok none ∨ ∃ next, result = .ok (some next) ∧ Fits next rest

variable {p : Pending} {x : Item α} {level rest : List (Item α)}

/-- A value joins the one before it, if there is one. -/
lemma WantsTerm.pushValue (hp : WantsTerm p) (h : Continues rest) (v : Bool) :
    Accepted rest (p.pushValue v >>= Pending.reduce) := by
  cases hp with
  | first => exact .inr ⟨_, rfl, .settled v h⟩
  | joined r hop =>
    obtain rfl | rfl := Operator.isBinary_iff.mp hop
    · exact .inr ⟨_, rfl, .settled (r && v) h⟩
    · cases hor : r || v with
      | true =>
        left
        simp [Pending.pushValue, Bind.bind, Except.bind, Pending.reduce, Pending.combine, hor]
      | false =>
        refine .inr ⟨_, ?_, .settled false h⟩
        simp [Pending.pushValue, Bind.bind, Except.bind, Pending.reduce, Pending.combine, hor]

/-- A negation that is pending turns the value around. -/
lemma WantsTerm.pushValue_negated (hp : WantsTerm p) (v : Bool) :
    ({ p with operators := .not :: p.operators }.pushValue v >>= Pending.reduce) =
      (p.pushValue (!v) >>= Pending.reduce) := by
  cases hp with
  | first => rfl
  | joined r hop =>
    obtain rfl | rfl := Operator.isBinary_iff.mp hop
    · rfl
    · rfl

lemma WantsTerm.accept_negation (hp : WantsTerm p) (v : Bool) :
    p.accept (.operator .not : Item α) (.ok v) =
      .ok (some { p with operators := .not :: p.operators }) := by
  cases hp with
  | first => rfl
  | joined r hop => rfl

/-- One item: the state that it leads to fits what is left. -/
lemma Fits.accept (h : Fits p (x :: rest)) (v : Bool) : Accepted rest (p.accept x (.ok v)) := by
  generalize hitems : x :: rest = items at h
  cases h with
  | wanting hp h =>
    obtain ⟨term, after, rfl, hterm, hafter⟩ := h.exists_term
    cases hterm with
    | plain hx =>
      cases hitems
      rw [accept_of_isTerm hx]
      exact hp.pushValue hafter v
    | negated hx =>
      cases hitems
      exact .inr ⟨_, hp.accept_negation v, .negated hp hx hafter⟩
  | negated hp hx hafter =>
    cases hitems
    rw [accept_of_isTerm hx, hp.pushValue_negated]
    exact hp.pushValue hafter (!v)
  | settled r h =>
    cases h with
    | done => contradiction
    | join hop h =>
      cases hitems
      obtain rfl | rfl := Operator.isBinary_iff.mp hop
      · exact .inr ⟨_, rfl, .wanting (.joined r hop) h⟩
      · cases r with
        | true => exact .inl rfl
        | false => exact .inr ⟨_, rfl, .wanting (.joined false hop) h⟩

/-- A run: every state that a chain comes to fits what is left of the chain. -/
lemma Reaches.fits (h : Reaches level p rest) (hlevel : IsChain level) : Fits p rest := by
  induction h with
  | start => exact .wanting .first hlevel
  | @accept p next item rest v _ haccept ih =>
    obtain hnone | ⟨next', hnext, hfits⟩ := ih.accept v
    · simp [haccept] at hnone
    · rw [haccept] at hnext
      cases hnext
      exact hfits

lemma safe_of_isChain (hlevel : IsChain level) : Safe level where
  accept_ne_error p item rest h v fault hfault := by
    obtain hnone | ⟨next, hnext, -⟩ := (h.fits hlevel).accept v
    · simp [hfault] at hnone
    · simp [hfault] at hnext
  settled p h := by
    generalize hrest : [] = rest at h
    cases h.fits hlevel with
    | wanting _ h => exact absurd hrest.symm h.ne_nil
    | negated => cases hrest
    | settled v _ => exact ⟨v, rfl⟩

/-! ## Evaluations are among the runs -/

variable [Operand α ρ] {subject : Subject}

/-- An evaluation goes from state to state, so where no state has a fault ahead it comes to a
value. -/
lemma Reaches.exists_outcome (h : Reaches level p rest) (hsafe : Safe level)
    (hrest : ∀ x ∈ rest, ∃ v, (ofItem subject x).outcome = .ok v) :
    ∃ v, (ofItems subject p rest).outcome = .ok v := by
  induction rest generalizing p with
  | nil =>
    obtain ⟨v, rfl⟩ := hsafe.settled p h
    exact ⟨v, rfl⟩
  | cons item rest ih =>
    obtain ⟨⟨v, hv⟩, hrest⟩ := List.forall_mem_cons.mp hrest
    simp only [ofItems, hv]
    cases haccept : p.accept item (.ok v) with
    | error fault => exact absurd haccept (hsafe.accept_ne_error p item rest h v fault)
    | ok next =>
      cases next with
      | none => exact ⟨true, rfl⟩
      | some next => exact ih (.accept h haccept) hrest

lemma exists_outcome_of_elaborates {phrase : Phrase} {source : List (Item α)}
    (h : Elaborates PreparesTo phrase source level) :
    ∀ x ∈ level, ∃ v, (ofItem subject x).outcome = .ok v := by
  induction h with
  | unit h =>
    cases h
    simp [ofItem]
  | brackets h ih =>
    have hsafe := safe_of_isChain (contributes_of_elaborates (fun _ _ => isTerm_of_preparesTo) h)
    simpa [ofItem] using Reaches.start.exists_outcome hsafe ih
  | plain _ ih => exact ih
  | negated _ ih => exact List.forall_mem_cons.mpr ⟨⟨false, rfl⟩, ih⟩
  | done => simp
  | more _ _ _ ih ihrest =>
    exact List.forall_mem_cons.mpr ⟨⟨false, rfl⟩, List.forall_mem_append.mpr ⟨ih, ihrest⟩⟩
  | expression _ _ ih ihrest => exact List.forall_mem_append.mpr ⟨ih, ihrest⟩

end Evaluation

namespace Expression

open Evaluation

/-- **Built expressions have safe levels.**  A built expression without items apart, each of its
levels is a chain of terms, without brackets and with negations only before terms; whatever its
terms come to, no fault arises on it, and it has settled to one value when its items run out.  So
every evaluation comes to a value. -/
theorem Built.levels_safe [Operand α ρ] {e : Expression α} (h : e.Built) :
    (e.items = [] ∨ ∀ level, e.HasLevel level → WellFormed level ∧ Safe level) ∧
      ∀ subject, ∃ v, (e.evaluate subject).outcome = .ok v := by
  constructor
  · refine h.isChain.imp_right fun hchain level hlevel => ?_
    exact ⟨(hchain level hlevel).wellFormed, safe_of_isChain (hchain level hlevel)⟩
  · intro subject
    obtain hempty | ⟨source, helaborates⟩ := h.elaborates
    · rw [evaluate, hempty]
      exact ⟨false, rfl⟩
    · have hsafe := safe_of_isChain
        (contributes_of_elaborates (fun _ _ => isTerm_of_preparesTo) helaborates)
      exact Reaches.start.exists_outcome hsafe (exists_outcome_of_elaborates helaborates)

/-- The items of a group that is taken out of one expression and used again in another. -/
def sharedGroup : List (Item Builtin) :=
  [.operator .not, .operand (.fileType "f" (some .file)), .operator .or,
    .operand (.newer "2024-02-29" (some ⟨1709164800, 0⟩))]

/-- An expression with `sharedGroup` below a negation and another group. -/
def sharing : Expression Builtin where
  items :=
    [.operator .not,
      .group [.group sharedGroup, .operator .and,
        .operand (.size .larger "1K" (some 1024))]]

theorem levels_safe_sharing :
    Registry.builtins.parse "type=d && (!type=f || newer=2024-02-29)" =
        .ok ⟨[.operand (.fileType "d" (some .dir)), .operator .and, .group sharedGroup]⟩ ∧
      build [.operator .not, .operator .openBracket, .group sharedGroup, .operator .and,
        .operand (.size .larger "1K" none), .operator .closeBracket] = .ok sharing ∧
      sharing.HasLevel sharedGroup ∧ WellFormed sharedGroup ∧ Safe sharedGroup ∧
      ∀ subject, ∃ v, (sharing.evaluate subject).outcome = .ok v := by
  have hparse : Registry.builtins.parse "type=d && (!type=f || newer=2024-02-29)" =
      .ok ⟨[.operand (.fileType "d" (some .dir)), .operator .and, .group sharedGroup]⟩ := by rfl
  have hbuild : build
      [.operator .not, .operator .openBracket, .group sharedGroup, .operator .and,
        .operand (.size .larger "1K" none), .operator .closeBracket] = .ok sharing := by rfl
  have hbuilt : sharing.Built := by
    refine .build (fun inner hmem => ?_) hbuild
    have hinner : inner = sharedGroup := by simpa using hmem
    exact hinner ▸ .group (.parse hparse) (by simp)
  have hmiddle : sharing.HasLevel [.group sharedGroup, .operator .and,
      .operand (.size .larger "1K" (some 1024))] := .inside .outermost (by simp [sharing])
  have hlevel : sharing.HasLevel sharedGroup := .inside hmiddle (by simp)
  obtain ⟨hempty | hlevels, hevaluate⟩ := Built.levels_safe hbuilt
  · simp [sharing] at hempty
  · obtain ⟨hwellFormed, hsafe⟩ := hlevels sharedGroup hlevel
    exact ⟨hparse, hbuild, hlevel, hwellFormed, hsafe, hevaluate⟩

end Expression

end FileSieve
