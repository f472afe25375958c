import FileSieve.Proofs.Expression.Building
import FileSieve.Registry

/-!
# The expressions that can be had

An expression comes from building items or from parsing a text, and the groups inside one can be
taken out and used again, on their own or among the items of another.  `Expression.Built` describes
what can be had in this way, over any operands and any registries.

The main result of this file is `Expression.Built.elaborates`: however a built expression came
about, it is empty or it is what the grammar makes of a flat sequence of items, with brackets in the
place of groups.  All that later files use about the shape of built expressions they get from there,
by induction on the elaboration.
-/

namespace FileSieve

open Grammar

variable {α ρ : Type} [Operand α ρ]

/-- The expressions that can be had by building and parsing, from parts that were had before. -/
inductive Expression.Built : Expression α → Prop
  /-- The empty expression. -/
  | empty : Built {}
  /-- What building makes of items whose groups, if any, are those of built expressions. -/
  | build {items : List (Item α)} {e : Expression α}
      (hgroups : ∀ inner, Item.group inner ∈ items → Built ⟨inner⟩)
      (h : Expression.build items = .ok e) : Built e
  /-- What a registry makes of a text. -/
  | parse {r : Registry α} {text : String} {e : Expression α} (h : r.parse text = .ok e) : Built e
  /-- A group of a built expression. -/
  | group {e : Expression α} {inner : List (Item α)} (h : Built e)
      (hmem : Item.group inner ∈ e.items) : Built ⟨inner⟩

namespace Grammar

variable {p : Phrase} {items level : List (Item α)}

/-- The groups of a level are levels in their turn. -/
lemma Elaborates.exists_of_group_mem (h : Elaborates PreparesTo p items level) :
    ∀ inner, Item.group inner ∈ level →
      ∃ source, Elaborates PreparesTo .expression source inner := by
  induction h with
  | unit h =>
    cases h
    simp
  | brackets h _ =>
    intro inner hmem
    simp only [List.mem_singleton, Item.group.injEq] at hmem
    exact ⟨_, hmem ▸ h⟩
  | plain _ ih => exact ih
  | negated _ ih => simpa using ih
  | done => simp
  | more _ _ _ ih ihrest =>
    simp only [List.mem_cons, reduceCtorEq, false_or, forall_image_mem_append]
    exact ⟨ih, ihrest⟩
  | expression _ _ ih ihrest =>
    rw [forall_image_mem_append]
    exact ⟨ih, ihrest⟩

/-- If the ready-made groups among the items have a flat source, then so has the whole. -/
lemma Elaborates.exists_flat (h : Elaborates BuildsTo p items level)
    (hgroups : ∀ inner, Item.group inner ∈ items → inner ≠ [] →
      ∃ source, Elaborates PreparesTo .expression source inner) :
    ∃ source, Elaborates PreparesTo p source level := by
  induction h with
  | unit h =>
    cases h with
    | operand h => exact ⟨_, .unit (.operand h)⟩
    | @group inner h =>
      obtain ⟨source, hsource⟩ := hgroups inner (by simp) h
      exact ⟨_, .brackets hsource⟩
  | brackets _ ih =>
    simp only [List.mem_cons, reduceCtorEq, false_or, forall_image_mem_append] at hgroups
    obtain ⟨source, hsource⟩ := ih hgroups.1
    exact ⟨_, .brackets hsource⟩
  | plain _ ih =>
    obtain ⟨source, hsource⟩ := ih hgroups
    exact ⟨source, .plain hsource⟩
  | negated _ ih =>
    simp only [List.mem_cons, reduceCtorEq, false_or] at hgroups
    obtain ⟨source, hsource⟩ := ih hgroups
    exact ⟨_, .negated hsource⟩
  | done => exact ⟨[], .done⟩
  | more hop _ _ ih ihrest =>
    simp only [List.mem_cons, reduceCtorEq, false_or, forall_image_mem_append] at hgroups
    obtain ⟨source, hsource⟩ := ih hgroups.1
    obtain ⟨rest, hrest⟩ := ihrest hgroups.2
    exact ⟨_, .more hop hsource hrest⟩
  | expression _ _ ih ihrest =>
    rw [forall_image_mem_append] at hgroups
    obtain ⟨source, hsource⟩ := ih hgroups.1
    obtain ⟨rest, hrest⟩ := ihrest hgroups.2
    exact ⟨_, .expression hsource hrest⟩

end Grammar

namespace Registry

variable {r : Registry α}

omit [Operand α ρ] in
/-- The items of a text contain no ready-made groups. -/
lemma group_notMem_of_itemsOf {tokens : List Token} {items : List (Item α)}
    (h : r.itemsOf tokens = (.ok items : Except (ExpressionError ρ) (List (Item α))))
    (inner : List (Item α)) : Item.group inner ∉ items := by
  fun_induction itemsOf (ρ := ρ) r tokens generalizing items with
  | case1 =>
    cases h
    simp
  | case2 op rest ih =>
    obtain ⟨more, hrest, rfl⟩ := map_eq_ok_iff.mp h
    simp [ih hrest]
  | case3 name value rest hfind => cases h
  | case4 name value rest factory hfind ih =>
    obtain ⟨more, hrest, rfl⟩ := map_eq_ok_iff.mp h
    simp [ih hrest]
  | case5 => cases h
  | case6 => cases h

/-- A text that has an expression has items that make it up, and they are flat. -/
lemma exists_items_of_parse {text : String} {e : Expression α} (h : r.parse text = .ok e) :
    ∃ items, Expression.build items = .ok e ∧ ∀ inner, Item.group inner ∉ items := by
  obtain ⟨items, hitems, hbuild⟩ := bind_eq_ok_iff.mp h
  refine ⟨items, hbuild, ?_⟩
  rw [Registry.items] at hitems
  split at hitems
  · contradiction
  · exact group_notMem_of_itemsOf hitems

end Registry

namespace Expression

/-- What building makes of groups that have a flat source has one, unless it is empty. -/
lemma exists_flat_of_build {items : List (Item α)} {e : Expression α} (h : build items = .ok e)
    (hgroups : ∀ inner, Item.group inner ∈ items →
      inner = [] ∨ ∃ source, Elaborates PreparesTo .expression source inner) :
    e.items = [] ∨ ∃ source, Elaborates PreparesTo .expression source e.items := by
  obtain ⟨-, hempty⟩ | helaborates := build_eq_ok_iff.mp h
  · exact .inl hempty
  · right
    apply helaborates.exists_flat
    intro inner hmem hne
    exact (hgroups inner hmem).resolve_left hne

/-- **Built expressions have flat sources.**  However an expression came about, it is empty, or it
is what the grammar makes of a sequence of operators, brackets and operands. -/
theorem Built.elaborates {e : Expression α} (h : e.Built) :
    e.items = [] ∨ ∃ source, Elaborates PreparesTo .expression source e.items := by
  induction h with
  | empty => exact .inl rfl
  | build _ h ih => exact exists_flat_of_build h ih
  | parse h =>
    obtain ⟨items, hbuild, hflat⟩ := Registry.exists_items_of_parse h
    exact exists_flat_of_build hbuild fun inner hmem => absurd hmem (hflat inner)
  | group _ hmem ih =>
    obtain hempty | ⟨source, h⟩ := ih
    · simp [hempty] at hmem
    · exact .inr (h.exists_of_group_mem _ hmem)

end Expression

end FileSieve
