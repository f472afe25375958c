import Mathlib.Data.List.Sort
import FileSieve.Filter.Set
import FileSieve.Proofs.Expression.Capability
import FileSieve.Proofs.Outcome
import FileSieve.Proofs.Registry.Table

/-!
# Compiling filters

A compiled set holds, under each name of its file, what the text of that name parses to
(`FilterSet.get?_compile`).  The filters are taken up one after the other, and no name is taken up
twice, so each one stays as it was taken up (`FilterSet.get?_compileFrom`).

The first text that does not parse ends the work (`FilterSet.compileFrom_eq_error_iff`).  Files list
their filters in the order of the names, so it is the text of the least name among those that fail:
`FilterSet.compile_allOrNothing`.
-/

namespace FileSieve.FilterSet

variable {α ρ : Type} [Operand α ρ] {registry : Registry α} {set result : FilterSet α}
  {entries : List (String × String)} {file : FilterFile} {name text : String}

lemma get?_insert (set : FilterSet α) (name : String) (e : Expression α) (other : String) :
    FilterSet.get? ⟨set.filters.insert name e⟩ other =
      if name = other then some e else set.get? other := by
  simp [get?, Std.TreeMap.getElem?_insert]

/-- Taking up one more filter: its text parses, and the rest is added to it. -/
lemma compileFrom_cons_eq_ok_iff :
    compileFrom registry set ((name, text) :: entries) = .ok result ↔
      ∃ e, registry.parse text = .ok e ∧
        compileFrom registry ⟨set.filters.insert name e⟩ entries = .ok result := by
  rw [compileFrom]
  cases registry.parse text with
  | ok e => simp
  | error e => simp

/-- What is not listed stays as it was. -/
lemma get?_compileFrom_of_notMem (h : compileFrom registry set entries = .ok result)
    (hname : name ∉ entries.map Prod.fst) : result.get? name = set.get? name := by
  induction entries generalizing set with
  | nil =>
    cases h
    rfl
  | cons entry entries ih =>
    obtain ⟨e, -, hrest⟩ := compileFrom_cons_eq_ok_iff.mp h
    obtain ⟨hne, hnotMem⟩ : entry.1 ≠ name ∧ name ∉ entries.map Prod.fst := by
      simpa [eq_comm] using hname
    rw [ih hrest hnotMem, get?_insert, if_neg hne]

/-- What is listed once is found. -/
lemma get?_compileFrom (h : compileFrom registry set entries = .ok result)
    (hdistinct : (entries.map Prod.fst).Nodup) (hentry : (name, text) ∈ entries) :
    ∃ e, registry.parse text = .ok e ∧ result.get? name = some e := by
  induction entries generalizing set with
  | nil => cases hentry
  | cons entry entries ih =>
    obtain ⟨e, hparse, hrest⟩ := compileFrom_cons_eq_ok_iff.mp h
    obtain ⟨hnotMem, hdistinct⟩ := List.nodup_cons.mp hdistinct
    rcases List.mem_cons.mp hentry with rfl | hentry
    · refine ⟨e, hparse, ?_⟩
      rw [get?_compileFrom_of_notMem hrest hnotMem, get?_insert, if_pos rfl]
    · exact ih hrest hdistinct hentry

/-- A compiled set holds what the texts of its file parse to. -/
lemma get?_compile (h : compile registry file = .ok result)
    (htext : file.filters[name]? = some text) :
    ∃ e, registry.parse text = .ok e ∧ result.get? name = some e := by
  have hdistinct : (file.filters.toList.map Prod.fst).Nodup := by
    rw [Std.TreeMap.map_fst_toList_eq_keys]
    exact file.filters.nodup_keys
  have hentry : (name, text) ∈ file.filters.toList :=
    Std.TreeMap.mem_toList_iff_getElem?_eq_some.mpr htext
  exact get?_compileFrom h hdistinct hentry

/-- A compiled set holds nothing else. -/
lemma get?_compile_of_none (h : compile registry file = .ok result)
    (hname : file.filters[name]? = none) : result.get? name = none := by
  have hnotMem : name ∉ file.filters.toList.map Prod.fst := by
    rw [Std.TreeMap.map_fst_toList_eq_keys, Std.TreeMap.mem_keys,
      Std.TreeMap.mem_iff_isSome_getElem?, hname]
    simp
  rw [get?_compileFrom_of_notMem h hnotMem]
  exact Std.TreeMap.getElem?_emptyc

/-! ## What a compiled set is -/

lemma mem_names_iff : name ∈ set.names ↔ ∃ e, set.get? name = some e := by
  rw [names, Std.TreeMap.mem_keys, Std.TreeMap.mem_iff_isSome_getElem?, Option.isSome_iff_exists]
  rfl

lemma pairwise_bytes_names (set : FilterSet α) :
    set.names.Pairwise fun a b => Text.bytes a < Text.bytes b :=
  set.filters.ordered_keys.imp fun h => Text.bytes_lt (compare_lt_iff_lt.mp h)

/-- A set needs what the operands of its filters declare. -/
lemma needs_iff {c : Capability} :
    set.needs c = true ↔
      ∃ name e, set.get? name = some e ∧ ∃ a ∈ e.operands, c ∈ Operand.capabilities a := by
  have hvalues : set.filters.values = set.filters.toList.map Prod.snd := by
    have hfold : set.filters.values = set.filters.foldr (fun _ e es => e :: es) [] := rfl
    rw [hfold, Std.TreeMap.foldr_eq_foldr_toList, List.map_eq_foldr]
  rw [needs, hvalues, List.any_map, List.any_eq_true]
  constructor
  · rintro ⟨⟨name, e⟩, hentry, hneeds⟩
    exact ⟨name, e, Std.TreeMap.mem_toList_iff_getElem?_eq_some.mp hentry,
      Expression.needs_iff.mp hneeds⟩
  · rintro ⟨name, e, hget, hoperands⟩
    exact ⟨(name, e), Std.TreeMap.mem_toList_iff_getElem?_eq_some.mpr hget,
      Expression.needs_iff.mpr hoperands⟩

/-- A set has the names of the file that it is compiled from, in the same order. -/
lemma names_compile (h : compile registry file = .ok result) :
    result.names = file.filters.keys := by
  have hmem : ∀ name, name ∈ result.names ↔ name ∈ file.filters.keys := by
    intro name
    rw [mem_names_iff, Std.TreeMap.mem_keys, Std.TreeMap.mem_iff_isSome_getElem?]
    cases htext : file.filters[name]? with
    | none => simp [get?_compile_of_none h htext]
    | some text =>
      obtain ⟨e, -, hget⟩ := get?_compile h htext
      simp [hget]
  have hnames : result.names.Pairwise (· < ·) :=
    result.filters.ordered_keys.imp compare_lt_iff_lt.mp
  have hkeys : file.filters.keys.Pairwise (· < ·) :=
    file.filters.ordered_keys.imp compare_lt_iff_lt.mp
  exact hnames.eq_of_mem_iff hkeys hmem

/-! ## Which filter is to blame -/

/-- The first of the listed filters that does not parse is the error; all before it parse. -/
lemma compileFrom_eq_error_iff {err : FilterError ρ} :
    compileFrom registry set entries = .error err ↔
      ∃ front name text rest source, entries = front ++ (name, text) :: rest ∧
        (∀ entry ∈ front, ∃ e, registry.parse entry.2 = .ok e) ∧
        registry.parse text = .error source ∧ err = .filter name source := by
  induction entries generalizing set with
  | nil => simp [compileFrom]
  | cons entry entries ih =>
    rw [compileFrom]
    cases hentry : registry.parse entry.2 with
    | error source =>
      constructor
      · intro h
        cases h
        exact ⟨[], entry.1, entry.2, entries, source, rfl, by simp, hentry, rfl⟩
      · rintro ⟨_ | ⟨first, front⟩, name, text, rest, reason, hshape, hfront, hparse, rfl⟩
        · obtain ⟨rfl, rfl⟩ := List.cons.inj hshape
          rw [hentry] at hparse
          cases hparse
          rfl
        · obtain ⟨rfl, rfl⟩ := List.cons.inj hshape
          obtain ⟨e, hok⟩ := hfront entry (by simp)
          rw [hentry] at hok
          contradiction
    | ok e =>
      simp only [ih]
      constructor
      · rintro ⟨front, name, text, rest, source, rfl, hfront, hparse⟩
        refine ⟨entry :: front, name, text, rest, source, rfl, ?_, hparse⟩
        exact List.forall_mem_cons.mpr ⟨⟨e, hentry⟩, hfront⟩
      · rintro ⟨_ | ⟨first, front⟩, name, text, rest, source, hshape, hfront, hparse, herr⟩
        · obtain ⟨rfl, rfl⟩ := List.cons.inj hshape
          rw [hentry] at hparse
          contradiction
        · obtain ⟨rfl, rfl⟩ := List.cons.inj hshape
          exact ⟨front, name, text, rest, source, rfl, fun other hother =>
            hfront other (List.mem_cons_of_mem _ hother), hparse, herr⟩

/-- Whether a filter of the file does not parse, for the given reason. -/
def Fails (registry : Registry α) (file : FilterFile) (name : String)
    (source : ExpressionError ρ) : Prop :=
  ∃ text, file.filters[name]? = some text ∧ registry.parse text = .error source

/-- Of the filters that fail, the one with the least name is the error. -/
lemma fails_of_compile_eq_error {err : FilterError ρ} (h : compile registry file = .error err) :
    ∃ name source, err = .filter name source ∧ Fails registry file name source ∧
      ∀ other reason, Fails registry file other reason → name ≤ other := by
  obtain ⟨front, name, text, rest, source, hshape, hfront, hparse, rfl⟩ :=
    compileFrom_eq_error_iff.mp h
  have hget : ∀ {name text}, (name, text) ∈ file.filters.toList ↔
      file.filters[name]? = some text := Std.TreeMap.mem_toList_iff_getElem?_eq_some
  refine ⟨name, source, rfl, ⟨text, hget.mp (by simp [hshape]), hparse⟩, ?_⟩
  rintro other reason ⟨otherText, hother, hreason⟩
  have hmem := hget.mpr hother
  rw [hshape, List.mem_append, List.mem_cons] at hmem
  -- what stands in front parses, and what stands behind has a larger name
  rcases hmem with hmem | hmem | hmem
  · obtain ⟨e, hok⟩ := hfront _ hmem
    rw [hok] at hreason
    contradiction
  · cases hmem
    exact le_rfl
  · have hordered := file.filters.ordered_keys_toList
    rw [hshape, List.pairwise_append] at hordered
    have hlt := (List.pairwise_cons.mp hordered.2.1).1 _ hmem
    exact (compare_lt_iff_lt.mp hlt).le

/-! ## All or nothing -/

/-- What a set that is compiled from a file has to offer. -/
structure Offers (registry : Registry α) (file : FilterFile) (set : FilterSet α) : Prop where
  /-- The names are those of the file. -/
  mem_names : ∀ name, name ∈ set.names ↔ ∃ text, file.filters[name]? = some text
  /-- Names are listed by their bytes, each once. -/
  names_ordered : set.names.Pairwise fun a b => Text.bytes a < Text.bytes b
  /-- Under each name of the file there is what its text parses to. -/
  get?_defined : ∀ name text, file.filters[name]? = some text →
    ∃ e, registry.parse text = .ok e ∧ set.get? name = some e ∧
      set.require name = (.ok e : Except (FilterError ρ) (Expression α))
  /-- There is nothing under other names. -/
  get?_other : ∀ name, file.filters[name]? = none →
    set.get? name = none ∧
      set.require name = (.error (.filterNotFound name) : Except (FilterError ρ) (Expression α))
  /-- There are as many filters as in the file. -/
  size_eq : set.size = file.filters.size
  /-- There is no filter if there is none in the file. -/
  isEmpty_eq : set.isEmpty = file.filters.isEmpty
  /-- The set needs what the operands of its filters declare. -/
  needs_iff : ∀ c, set.needs c = true ↔
    ∃ name e, set.get? name = some e ∧ ∃ a ∈ e.operands, c ∈ Operand.capabilities a

lemma offers_of_compile (h : compile registry file = .ok result) :
    Offers registry file result where
  mem_names name := by
    rw [names_compile h, Std.TreeMap.mem_keys, Std.TreeMap.mem_iff_isSome_getElem?,
      Option.isSome_iff_exists]
  names_ordered := pairwise_bytes_names result
  get?_defined name text htext := by
    obtain ⟨e, hparse, hget⟩ := get?_compile h htext
    exact ⟨e, hparse, hget, by rw [require, hget]⟩
  get?_other name hname := by
    have hget := get?_compile_of_none h hname
    exact ⟨hget, by rw [require, hget]⟩
  size_eq := by
    have hlength := congrArg List.length (names_compile h)
    rwa [names, Std.TreeMap.length_keys, Std.TreeMap.length_keys] at hlength
  isEmpty_eq := by
    have hisEmpty := congrArg List.isEmpty (names_compile h)
    rwa [names, Std.TreeMap.isEmpty_keys, Std.TreeMap.isEmpty_keys] at hisEmpty
  needs_iff _ := needs_iff

/-- **Compiling is all or nothing.**  It succeeds if and only if the text of every filter parses,
and then the set offers what the file defines.  Otherwise the error names, of the filters that do
not parse, the one whose name has the least bytes, and gives the reason why that one does not. -/
theorem compile_allOrNothing (registry : Registry α) (file : FilterFile) :
    ((∃ set, compile registry file = .ok set) ↔
      ∀ (name text : String), file.filters[name]? = some text →
        ∃ e, registry.parse text = .ok e) ∧
    (∀ set, compile registry file = .ok set → Offers registry file set) ∧
    ∀ err, compile registry file = .error err ↔
      ∃ name source, err = .filter name source ∧ Fails registry file name source ∧
        ∀ other reason, Fails registry file other reason →
          Text.bytes name ≤ Text.bytes other := by
  have hbytes : ∀ {a b : String}, a ≤ b → Text.bytes a ≤ Text.bytes b := by
    intro a b hab
    rcases hab.lt_or_eq with hlt | rfl
    · exact List.le_of_lt (Text.bytes_lt hlt)
    · exact List.le_refl _
  refine ⟨⟨?_, ?_⟩, fun set => offers_of_compile, fun err => ⟨?_, ?_⟩⟩
  · rintro ⟨set, hset⟩ name text htext
    obtain ⟨e, hparse, -⟩ := get?_compile hset htext
    exact ⟨e, hparse⟩
  · intro hparses
    cases hcompile : compile registry file with
    | ok set => exact ⟨set, rfl⟩
    | error err =>
      obtain ⟨name, source, -, ⟨text, htext, hparse⟩, -⟩ := fails_of_compile_eq_error hcompile
      obtain ⟨e, hok⟩ := hparses name text htext
      rw [hok] at hparse
      contradiction
  · intro h
    obtain ⟨name, source, herr, hfails, hleast⟩ := fails_of_compile_eq_error h
    exact ⟨name, source, herr, hfails, fun other reason hother => hbytes (hleast _ _ hother)⟩
  · rintro ⟨name, source, rfl, ⟨text, htext, hparse⟩, hleast⟩
    cases hcompile : compile registry file with
    | ok set =>
      obtain ⟨e, hok, -⟩ := get?_compile hcompile htext
      rw [hok] at hparse
      contradiction
    | error err =>
      obtain ⟨blamed, reason, rfl, hfails, hfirst⟩ := fails_of_compile_eq_error hcompile
      -- both names are the least one
      have hle := hfirst name source ⟨text, htext, hparse⟩
      obtain rfl : blamed = name := by
        refine hle.eq_or_lt.resolve_right fun hlt => ?_
        exact List.not_lt.mpr (hleast blamed reason hfails) (Text.bytes_lt hlt)
      obtain ⟨blamedText, hblamed, hreason⟩ := hfails
      rw [htext] at hblamed
      cases hblamed
      rw [hparse] at hreason
      cases hreason
      rfl

/-- Filters of which two do not parse. -/
def faultyFilters : FilterFile where
  filters := .ofList [("apple", "type=d &&"), ("Zoo", "type=x"), ("Alpha", "type=d")]

/-- Filters that parse. -/
def soundFilters : FilterFile where
  filters := .ofList [("small", "!file-larger=1K"), ("Alpha", "type=d || newer=2024-02-29")]

/-- Capital letters have smaller bytes, so `Zoo` is to blame and `apple` is not. -/
theorem compile_allOrNothing_faultyFilters :
    compile Registry.builtins faultyFilters = .error (.filter "Zoo" (.operand (.fileType "x"))) ∧
      Fails Registry.builtins faultyFilters "apple"
        (.grammar (.incompleteExpression "[type=d &&]")) ∧
      ∃ set, compile Registry.builtins soundFilters = .ok set ∧
        Offers Registry.builtins soundFilters set := by
  have hfaulty : faultyFilters.filters.toList =
      [("Alpha", "type=d"), ("Zoo", "type=x"), ("apple", "type=d &&")] := by decide
  have hsound : soundFilters.filters.toList =
      [("Alpha", "type=d || newer=2024-02-29"), ("small", "!file-larger=1K")] := by decide
  have hzoo : Fails Registry.builtins faultyFilters "Zoo" (.operand (.fileType "x")) :=
    ⟨"type=x", by decide, by rfl⟩
  have happle : Fails Registry.builtins faultyFilters "apple"
      (.grammar (.incompleteExpression "[type=d &&]")) := ⟨"type=d &&", by decide, by rfl⟩
  refine ⟨?_, happle, ?_⟩
  · refine ((compile_allOrNothing Registry.builtins faultyFilters).2.2 _).mpr
      ⟨"Zoo", _, rfl, hzoo, ?_⟩
    rintro other reason ⟨text, htext, hparse⟩
    have hmem := Std.TreeMap.mem_toList_iff_getElem?_eq_some.mpr htext
    simp only [hfaulty, List.mem_cons, Prod.mk.injEq, List.not_mem_nil, or_false] at hmem
    rcases hmem with ⟨rfl, rfl⟩ | ⟨rfl, rfl⟩ | ⟨rfl, rfl⟩
    · cases hparse
    · decide
    · decide
  · have hcompiles : ∃ set, compile Registry.builtins soundFilters = .ok set := by
      refine (compile_allOrNothing Registry.builtins soundFilters).1.mpr fun name text htext => ?_
      have hmem := Std.TreeMap.mem_toList_iff_getElem?_eq_some.mpr htext
      simp only [hsound, List.mem_cons, Prod.mk.injEq, List.not_mem_nil, or_false] at hmem
      rcases hmem with ⟨rfl, rfl⟩ | ⟨rfl, rfl⟩
      · exact ⟨_, rfl⟩
      · exact ⟨_, rfl⟩
    obtain ⟨set, hset⟩ := hcompiles
    exact ⟨set, hset, (compile_allOrNothing Registry.builtins soundFilters).2.1 set hset⟩

end FileSieve.FilterSet
