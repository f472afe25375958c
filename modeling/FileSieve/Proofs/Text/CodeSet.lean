import Mathlib.Tactic.Common
import FileSieve.Text.CodeSet

/-!
# Members of code point sets

A set is given by the points where membership switches, so a point is a member if an odd number of
switches lies at or before it (`CodeSet.switched`).  Binary search counts those switches, provided
that the bounds are in order (`CodeSet.contains_eq_switched`).

Every Boolean operation keeps the order and does on members what it is named for: of two bound
lists, a merge switches exactly where the combined membership changes
(`CodeSet.switched_mergeBounds`).  From this follow the members of unions (`CodeSet.contains_union`)
and of lists of points (`CodeSet.contains_ofPoints`).
-/

namespace FileSieve.CodeSet

variable {x n : ℕ} {s t : CodeSet}

/-! ## Switches -/

/-- Whether an odd number of the bounds lies at or before a point. -/
def switched (bounds : List ℕ) (x : ℕ) : Bool :=
  bounds.countP (· ≤ x) % 2 == 1

@[simp] lemma switched_nil : switched [] x = false := rfl

lemma switched_cons_of_le {b : ℕ} (hb : b ≤ x) (bounds : List ℕ) :
    switched (b :: bounds) x = !switched bounds x := by
  have hcount : (b :: bounds).countP (· ≤ x) = bounds.countP (· ≤ x) + 1 := by simp [hb]
  rw [switched, switched, hcount]
  rcases Nat.mod_two_eq_zero_or_one (bounds.countP (· ≤ x)) with heven | hodd
  · simp [Nat.add_mod, heven]
  · simp [Nat.add_mod, hodd]

lemma switched_eq_false_of_forall {bounds : List ℕ} (h : ∀ b ∈ bounds, x < b) :
    switched bounds x = false := by
  have hcount : bounds.countP (· ≤ x) = 0 := by
    rw [List.countP_eq_zero]
    intro b hb
    simpa using h b hb
  rw [switched, hcount]
  rfl

/-- The bounds are increasing. -/
def Ordered (s : CodeSet) : Prop := s.bounds.toList.Pairwise (· < ·)

/-- Of increasing bounds, those at or before a point come first. -/
lemma le_iff_lt_countP {bounds : List ℕ} (h : bounds.Pairwise (· < ·)) {i b : ℕ}
    (hb : bounds[i]? = some b) : b ≤ x ↔ i < bounds.countP (· ≤ x) := by
  induction bounds generalizing i with
  | nil => simp at hb
  | cons first bounds ih =>
    obtain ⟨hfirst, hbounds⟩ := List.pairwise_cons.mp h
    by_cases hle : first ≤ x
    · have hcount : (first :: bounds).countP (· ≤ x) = bounds.countP (· ≤ x) + 1 := by simp [hle]
      rw [hcount]
      cases i with
      | zero =>
        obtain rfl : first = b := by simpa using hb
        simp [hle]
      | succ i => rw [ih hbounds (by simpa using hb), Nat.add_lt_add_iff_right]
    · have hall : ∀ other ∈ first :: bounds, x < other := by
        intro other hother
        rcases List.mem_cons.mp hother with rfl | hother
        · omega
        · have hlt := hfirst other hother
          omega
      have hcount : (first :: bounds).countP (· ≤ x) = 0 := by
        rw [List.countP_eq_zero]
        intro other hother
        simpa using hall other hother
      have hlt := hall b (List.mem_of_getElem? hb)
      omega

/-- The search finds the number of bounds at or before the point. -/
lemma rank_eq {bounds : Array ℕ} (h : bounds.toList.Pairwise (· < ·)) {fuel lo hi : ℕ}
    (hlo : lo ≤ bounds.toList.countP (· ≤ x)) (hhi : bounds.toList.countP (· ≤ x) ≤ hi)
    (hsize : hi ≤ bounds.size) (hfuel : hi - lo < fuel) :
    rank bounds x fuel lo hi = bounds.toList.countP (· ≤ x) := by
  induction fuel generalizing lo hi with
  | zero => omega
  | succ fuel ih =>
    rw [rank]
    split
    · omega
    · have hmid : (lo + hi) / 2 < bounds.size := by omega
      have hget : bounds[(lo + hi) / 2]? = some bounds[(lo + hi) / 2] := by simp [hmid]
      have hle := le_iff_lt_countP (x := x) h (Array.getElem?_toList.trans hget)
      simp only [hget]
      split
      · exact ih (by omega) hhi hsize (by omega)
      · exact ih hlo (by omega) (by omega) (by omega)

/-- Membership is the parity of the switches. -/
lemma contains_eq_switched (h : s.Ordered) (x : ℕ) :
    s.contains x = switched s.bounds.toList x := by
  have hcount : s.bounds.toList.countP (· ≤ x) ≤ s.bounds.size := by
    simpa using List.countP_le_length (l := s.bounds.toList) (p := (· ≤ x))
  have hrank : rank s.bounds x (s.bounds.size + 1) 0 s.bounds.size =
      s.bounds.toList.countP (· ≤ x) := rank_eq h (by omega) hcount (Nat.le_refl _) (by omega)
  rw [contains, hrank]
  rfl

/-! ## Merges -/

/-- How a bound `z` is passed in an increasing list: if the list starts with it, the rest is left
and the scan gets to the other side; otherwise all of the list lies behind it. -/
inductive Passes (z : ℕ) : (inside : Bool) → (bounds : List ℕ) → Bool → List ℕ → Prop
  | here (inside : Bool) (rest : List ℕ) : Passes z inside (z :: rest) (!inside) rest
  | ahead (inside : Bool) {bounds : List ℕ} (h : ∀ n ∈ bounds.head?, z < n) :
      Passes z inside bounds inside bounds

/-- The merges of two lists.  The least bound of both is passed in each, and it is kept if the
combined membership changes there. -/
inductive Merges (op : Bool → Bool → Bool) :
    (a b out : Bool) → (xs ys : List ℕ) → List ℕ → Prop
  | done (a b out : Bool) : Merges op a b out [] [] []
  | same {z : ℕ} {a b a' b' out : Bool} {xs ys xs' ys' result : List ℕ}
      (hx : Passes z a xs a' xs') (hy : Passes z b ys b' ys') (hop : op a' b' = out)
      (h : Merges op a' b' out xs' ys' result) : Merges op a b out xs ys result
  | change {z : ℕ} {a b a' b' out : Bool} {xs ys xs' ys' result : List ℕ}
      (hz : z ∈ xs ∨ z ∈ ys) (hx : Passes z a xs a' xs') (hy : Passes z b ys b' ys')
      (hop : op a' b' ≠ out) (h : Merges op a' b' (!out) xs' ys' result) :
      Merges op a b out xs ys (z :: result)

section Passes

variable {z : ℕ} {a a' : Bool} {xs xs' : List ℕ}

lemma Passes.sublist (h : Passes z a xs a' xs') : xs'.Sublist xs := by
  cases h with
  | here => exact List.sublist_cons_self _ _
  | ahead => exact List.Sublist.refl _

/-- All bounds that are left lie behind the one that is passed. -/
lemma Passes.lt_of_mem (h : Passes z a xs a' xs') (hxs : xs.Pairwise (· < ·)) :
    ∀ n ∈ xs', z < n := by
  cases h with
  | here => exact (List.pairwise_cons.mp hxs).1
  | ahead hahead =>
    intro n hn
    cases xs with
    | nil => cases hn
    | cons first rest =>
      have hfirst : z < first := hahead first rfl
      rcases List.mem_cons.mp hn with rfl | hn
      · exact hfirst
      · exact Nat.lt_trans hfirst ((List.pairwise_cons.mp hxs).1 n hn)

/-- No bound lies in front of the one that is passed. -/
lemma Passes.le_of_mem (h : Passes z a xs a' xs') (hxs : xs.Pairwise (· < ·)) :
    ∀ n ∈ xs, z ≤ n := by
  intro n hn
  cases h with
  | here =>
    rcases List.mem_cons.mp hn with rfl | hn
    · exact Nat.le_refl _
    · exact Nat.le_of_lt ((List.pairwise_cons.mp hxs).1 n hn)
  | ahead hahead => exact Nat.le_of_lt ((Passes.ahead a hahead).lt_of_mem hxs n hn)

/-- At or behind the bound it does not matter whether it has been passed. -/
lemma Passes.switched_eq (h : Passes z a xs a' xs') (hz : z ≤ x) :
    (switched xs x ^^ a) = (switched xs' x ^^ a') := by
  cases h with
  | here => simp [switched_cons_of_le hz]
  | ahead => rfl

end Passes

section Merges

variable {op : Bool → Bool → Bool} {a b out : Bool} {xs ys result : List ℕ}

lemma merges_mergeBounds (op : Bool → Bool → Bool) (a b out : Bool) (xs ys : List ℕ) :
    Merges op a b out xs ys (mergeBounds op a b out xs ys) := by
  fun_induction mergeBounds op a b out xs ys with
  | case1 a b out => exact .done a b out
  | case2 a b out x xs hop ih =>
    exact .same (.here a xs) (.ahead b (by simp)) (by simpa using hop) ih
  | case3 a b out x xs hop ih =>
    exact .change (by simp) (.here a xs) (.ahead b (by simp)) (by simpa using hop) ih
  | case4 a b out y ys hop ih =>
    exact .same (.ahead a (by simp)) (.here b ys) (by simpa using hop) ih
  | case5 a b out y ys hop ih =>
    exact .change (by simp) (.ahead a (by simp)) (.here b ys) (by simpa using hop) ih
  | case6 a b out x xs y ys hlt hop ih =>
    exact .same (.here a xs) (.ahead b (by simpa using hlt)) (by simpa using hop) ih
  | case7 a b out x xs y ys hlt hop ih =>
    exact .change (by simp) (.here a xs) (.ahead b (by simpa using hlt)) (by simpa using hop) ih
  | case8 a b out x xs y ys _ hlt hop ih =>
    exact .same (.ahead a (by simpa using hlt)) (.here b ys) (by simpa using hop) ih
  | case9 a b out x xs y ys _ hlt hop ih =>
    exact .change (by simp) (.ahead a (by simpa using hlt)) (.here b ys) (by simpa using hop) ih
  | case10 a b out x xs y ys hxy hyx hop ih =>
    obtain rfl : x = y := by omega
    exact .same (.here a xs) (.here b ys) (by simpa using hop) ih
  | case11 a b out x xs y ys hxy hyx hop ih =>
    obtain rfl : x = y := by omega
    exact .change (by simp) (.here a xs) (.here b ys) (by simpa using hop) ih

/-- A merge makes up no bounds. -/
lemma Merges.mem_or_mem (h : Merges op a b out xs ys result) :
    ∀ n ∈ result, n ∈ xs ∨ n ∈ ys := by
  induction h with
  | done => simp
  | same hx hy _ _ ih =>
    intro n hn
    exact (ih n hn).imp (hx.sublist.subset ·) (hy.sublist.subset ·)
  | change hz hx hy _ _ ih =>
    intro n hn
    rcases List.mem_cons.mp hn with rfl | hn
    · exact hz
    · exact (ih n hn).imp (hx.sublist.subset ·) (hy.sublist.subset ·)

/-- A merge of increasing bounds is increasing. -/
lemma Merges.pairwise (h : Merges op a b out xs ys result) (hxs : xs.Pairwise (· < ·))
    (hys : ys.Pairwise (· < ·)) : result.Pairwise (· < ·) := by
  induction h with
  | done => exact .nil
  | same hx hy _ _ ih => exact ih (hxs.sublist hx.sublist) (hys.sublist hy.sublist)
  | change _ hx hy _ hrest ih =>
    refine List.pairwise_cons.mpr ⟨fun n hn => ?_, ih (hxs.sublist hx.sublist)
      (hys.sublist hy.sublist)⟩
    exact (hrest.mem_or_mem n hn).elim (hx.lt_of_mem hxs n) (hy.lt_of_mem hys n)

/-- In front of all bounds nothing has switched. -/
lemma Merges.switched_eq_of_forall (h : Merges op a b out xs ys result) (hout : op a b = out)
    (hxs : ∀ n ∈ xs, x < n) (hys : ∀ n ∈ ys, x < n) :
    (switched result x ^^ out) = op (switched xs x ^^ a) (switched ys x ^^ b) := by
  have hresult : ∀ n ∈ result, x < n := fun n hn => (h.mem_or_mem n hn).elim (hxs n) (hys n)
  simp [switched_eq_false_of_forall hxs, switched_eq_false_of_forall hys,
    switched_eq_false_of_forall hresult, hout]

/-- A merge switches where the combined membership does.  The scan is inside the first set as `a`
says and inside the second one as `b` says; what has been kept so far agrees with them. -/
lemma Merges.switched_eq (h : Merges op a b out xs ys result) (hout : op a b = out)
    (hxs : xs.Pairwise (· < ·)) (hys : ys.Pairwise (· < ·)) (x : ℕ) :
    (switched result x ^^ out) = op (switched xs x ^^ a) (switched ys x ^^ b) := by
  -- before the first bound there is nothing to show, behind it the rest of the merge decides
  induction h with
  | done => simp [hout]
  | @same z _ _ _ _ _ _ _ _ _ _ hx hy hop hrest ih =>
    rcases Nat.lt_or_ge x z with hlt | hle
    · exact (Merges.same hx hy hop hrest).switched_eq_of_forall hout
        (fun n hn => Nat.lt_of_lt_of_le hlt (hx.le_of_mem hxs n hn))
        (fun n hn => Nat.lt_of_lt_of_le hlt (hy.le_of_mem hys n hn))
    · rw [hx.switched_eq hle, hy.switched_eq hle]
      exact ih hop (hxs.sublist hx.sublist) (hys.sublist hy.sublist)
  | @change z _ _ _ _ out _ _ _ _ _ hz hx hy hop hrest ih =>
    rcases Nat.lt_or_ge x z with hlt | hle
    · exact (Merges.change hz hx hy hop hrest).switched_eq_of_forall hout
        (fun n hn => Nat.lt_of_lt_of_le hlt (hx.le_of_mem hxs n hn))
        (fun n hn => Nat.lt_of_lt_of_le hlt (hy.le_of_mem hys n hn))
    · rw [hx.switched_eq hle, hy.switched_eq hle, switched_cons_of_le hle, Bool.not_xor,
        ← Bool.xor_not]
      exact ih (Bool.eq_not_of_ne hop) (hxs.sublist hx.sublist) (hys.sublist hy.sublist)

end Merges

/-! ## Unions -/

lemma ordered_union (hs : s.Ordered) (ht : t.Ordered) : (s.union t).Ordered := by
  rw [Ordered, union, combine, List.toList_toArray]
  exact (merges_mergeBounds _ _ _ _ _ _).pairwise hs ht

lemma contains_union (hs : s.Ordered) (ht : t.Ordered) (x : ℕ) :
    (s.union t).contains x = (s.contains x || t.contains x) := by
  have hmerge := (merges_mergeBounds (· || ·) false false false s.bounds.toList
    t.bounds.toList).switched_eq rfl hs ht x
  rw [contains_eq_switched (ordered_union hs ht), contains_eq_switched hs,
    contains_eq_switched ht, union, combine, List.toList_toArray]
  simpa using hmerge

/-! ## Points -/

lemma bounds_singleton (n : ℕ) : (singleton n).bounds = #[n, n + 1] := by
  simp [singleton, range]

lemma ordered_singleton (n : ℕ) : (singleton n).Ordered := by
  simp [Ordered, bounds_singleton]

lemma contains_singleton (n x : ℕ) : (singleton n).contains x = true ↔ x = n := by
  rw [contains_eq_switched (ordered_singleton n), bounds_singleton]
  rcases Nat.lt_trichotomy x n with hlt | rfl | hlt
  · have hall : ∀ b ∈ [n, n + 1], x < b := by simp; omega
    simp [switched_eq_false_of_forall hall]
    omega
  · simp [switched]
  · rw [switched_cons_of_le (by omega), switched_cons_of_le (by omega)]
    simp
    omega

lemma ordered_empty : empty.Ordered := .nil

lemma contains_empty (x : ℕ) : empty.contains x = false :=
  contains_eq_switched ordered_empty x

section UnionAll

variable {sets : List CodeSet}

lemma length_pairUp_le (sets : List CodeSet) :
    2 * (unionAll.pairUp sets).length ≤ sets.length + 1 := by
  fun_induction unionAll.pairUp sets with
  | case1 s t rest ih =>
    simp only [List.length_cons]
    omega
  | case2 sets hsets =>
    match sets with
    | [] => simp
    | [s] => simp
    | s :: t :: rest => exact absurd rfl (hsets s t rest)

lemma ordered_pairUp (h : ∀ s ∈ sets, s.Ordered) : ∀ s ∈ unionAll.pairUp sets, s.Ordered := by
  fun_induction unionAll.pairUp sets with
  | case1 s t rest ih =>
    intro u hu
    rcases List.mem_cons.mp hu with rfl | hu
    · exact ordered_union (h s (by simp)) (h t (by simp))
    · exact ih (fun v hv => h v (by simp [hv])) u hu
  | case2 => exact h

lemma exists_contains_pairUp (h : ∀ s ∈ sets, s.Ordered) (x : ℕ) :
    (∃ s ∈ unionAll.pairUp sets, s.contains x = true) ↔ ∃ s ∈ sets, s.contains x = true := by
  fun_induction unionAll.pairUp sets with
  | case1 s t rest ih =>
    have hunion := contains_union (h s (by simp)) (h t (by simp)) x
    have hrest := ih fun v hv => h v (by simp [hv])
    simp only [List.mem_cons, exists_eq_or_imp, hunion, Bool.or_eq_true, hrest, or_assoc]
  | case2 => exact Iff.rfl

/-- Joining neighbours until one set is left keeps the members, if there are steps enough. -/
lemma unionAll_spec {fuel : ℕ} (hfuel : sets.length ≤ fuel) (h : ∀ s ∈ sets, s.Ordered) :
    (unionAll fuel sets).Ordered ∧
      ∀ x, (unionAll fuel sets).contains x = true ↔ ∃ s ∈ sets, s.contains x = true := by
  induction fuel generalizing sets with
  | zero =>
    obtain rfl : sets = [] := by simpa using hfuel
    exact ⟨ordered_empty, fun x => by simp [unionAll, contains_empty]⟩
  | succ fuel ih =>
    match sets with
    | [] => exact ⟨ordered_empty, fun x => by simp [unionAll, contains_empty]⟩
    | [s] => exact ⟨h s (by simp), by simp [unionAll]⟩
    | s :: t :: rest =>
      have hpairs := length_pairUp_le (s :: t :: rest)
      have hlength : (unionAll.pairUp (s :: t :: rest)).length ≤ fuel := by
        simp only [List.length_cons] at hfuel hpairs
        omega
      obtain ⟨hordered, hcontains⟩ := ih hlength (ordered_pairUp h)
      exact ⟨hordered, fun x => (hcontains x).trans (exists_contains_pairUp h x)⟩

end UnionAll

section OfPoints

variable {points : List ℕ}

lemma ordered_of_mem_map_singleton : ∀ s ∈ points.map singleton, s.Ordered := by
  simp [ordered_singleton]

lemma ordered_ofPoints (points : List ℕ) : (ofPoints points).Ordered :=
  (unionAll_spec (by simp) ordered_of_mem_map_singleton).1

lemma contains_ofPoints (points : List ℕ) (x : ℕ) :
    (ofPoints points).contains x = true ↔ x ∈ points := by
  rw [ofPoints, (unionAll_spec (by simp) ordered_of_mem_map_singleton).2]
  simp [contains_singleton]

end OfPoints

end FileSieve.CodeSet
