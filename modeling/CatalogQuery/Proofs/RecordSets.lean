/-
Which trees become sets of records.  Every operation on queries is a query, and one that has a
set of records among its operands is a set of records; a filter always is one, and nothing else
is by itself.  Hence a tree becomes a query unless a filter stands in it or in a stored query
that it leads to.
-/
import CatalogQuery.Proofs.ColumnContract
import CatalogQuery.Proofs.StoredQueries

namespace CatalogQuery

open Sql (ColumnSet Fragment SetOperation)

variable {e : Engine} {o : Options} {node : Node} {needs : ColumnSet}

/-- A filter stands in the tree, or in a stored query that the tree leads to. -/
def Engine.ContainsFilter (e : Engine) (o : Options) (node : Node) : Prop :=
  ∃ call inputs, e.Contains o node (.filter call inputs)

theorem containsFilter_filter (call : FilterCall) (inputs : List Node) :
    e.ContainsFilter o (.filter call inputs) :=
  ⟨call, inputs, .refl⟩

/-- A tree that is no filter has one in one of its parts. -/
theorem containsFilter_iff_exists_hasPart (h : ∀ call inputs, node ≠ .filter call inputs) :
    e.ContainsFilter o node ↔ ∃ part, e.HasPart o node part ∧ e.ContainsFilter o part := by
  constructor
  · rintro ⟨call, inputs, hcontains⟩
    rcases hcontains.cases_head with hsame | ⟨part, hpart, hrest⟩
    · exact absurd hsame (h call inputs)
    · exact ⟨part, hpart, call, inputs, hrest⟩
  · rintro ⟨part, hpart, call, inputs, hrest⟩
    exact ⟨call, inputs, .head hpart hrest⟩

theorem containsFilter_named_iff {space : Option String} {name : String} {stored : Node}
    (h : e.stored? o space name = some stored) :
    e.ContainsFilter o (.named space name) ↔ e.ContainsFilter o stored := by
  rw [containsFilter_iff_exists_hasPart fun _ _ hsame => by cases hsame]
  constructor
  · rintro ⟨part, hpart, hfilter⟩
    cases (hasPart_named_iff.mp hpart).symm.trans h
    exact hfilter
  · exact fun hfilter => ⟨stored, .stored h, hfilter⟩

theorem mapM_fragment?_eq_none_iff {cs : List Compiled} :
    cs.mapM Compiled.fragment? = none ↔ ∃ c ∈ cs, c.fragment? = none := by
  induction cs with
  | nil => exact ⟨nofun, nofun⟩
  | cons c rest ih =>
      rw [List.mapM_cons, List.exists_mem_cons_iff, ← ih]
      cases c.fragment? with
      | none => simp
      | some fragment => cases rest.mapM Compiled.fragment? <;> simp

theorem fragment?_combine_eq_none_iff {op : SetOperation} {first : Compiled}
    {rest : List Compiled} :
    (e.combine o op needs first rest).fragment? = none ↔
      ∃ c ∈ first :: rest, c.fragment? = none := by
  rw [List.exists_mem_cons_iff, ← mapM_fragment?_eq_none_iff]
  unfold Engine.combine
  by_cases hrest : rest = []
  · subst hrest
    exact ⟨.inl, fun h => h.resolve_right nofun⟩
  rw [if_neg (by simpa using hrest)]
  cases first.fragment? with
  | none => exact ⟨fun _ => .inl rfl, fun _ => rfl⟩
  | some fragment =>
      cases rest.mapM Compiled.fragment? with
      | none => exact ⟨fun _ => .inr rfl, fun _ => rfl⟩
      | some fragments => exact ⟨nofun, fun h => by rcases h with h | h <;> cases h⟩

/-- An operation on one operand is a set of records where the operand is one. -/
theorem fragment?_onlyOne {k : Compiled → Except Failure Compiled} {cs : List Compiled}
    {r : Compiled} (hk : ∀ c r, k c = .ok r → (r.fragment? = none ↔ c.fragment? = none))
    (h : Engine.onlyOne k cs = .ok r) :
    r.fragment? = none ↔ ∃ c ∈ cs, c.fragment? = none := by
  obtain ⟨c, rfl, hc⟩ := exists_of_onlyOne h
  rw [List.exists_mem_cons_iff, hk c r hc]
  exact ⟨.inl, fun h => h.resolve_right nofun⟩

theorem fragment?_compileCondition {predicate : Predicate} {form : Dnf} {c r : Compiled}
    (h : e.compileCondition predicate form needs c = .ok r) :
    r.fragment? = none ↔ c.fragment? = none := by
  cases c with
  | query inner =>
      obtain ⟨condition, -, hr⟩ := bind_eq_ok_iff.mp h
      cases hr
      exact ⟨nofun, nofun⟩
  | records files =>
      obtain ⟨kept, -, hr⟩ := bind_eq_ok_iff.mp h
      cases hr
      exact Iff.rfl

/-- A tree that is no filter becomes a set of records where one of its operands did. -/
theorem fragment?_finish_eq_none_iff {cs : List Compiled} {r : Compiled}
    (hfilter : ∀ call inputs, node ≠ .filter call inputs)
    (hlength : cs.length = node.fileOperands.length) (h : e.finish o needs node cs = .ok r) :
    r.fragment? = none ↔ ∃ c ∈ cs, c.fragment? = none := by
  cases node with
  | filter call inputs => exact absurd rfl (hfilter call inputs)
  | union operands | join operands | minus left right =>
      cases cs with
      | nil => cases h
      | cons first rest =>
          cases h
          exact fragment?_combine_eq_none_iff
  | parentsOf query | childrenOf query | limit query count | skip query count =>
      refine fragment?_onlyOne (fun c r hc => ?_) h
      cases c with
      | query inner =>
          cases hc
          exact ⟨nofun, nofun⟩
      | records files =>
          cases hc
          exact Iff.rfl
  | metaFilter query predicate =>
      obtain ⟨form, -, h⟩ := bind_eq_ok_iff.mp h
      cases form with
      | always =>
          refine fragment?_onlyOne (fun c r hc => ?_) h
          cases hc
          exact Iff.rfl
      | never | anyOf conjunctions =>
          exact fragment?_onlyOne (fun _ _ => fragment?_compileCondition) h
  | everyFile =>
      cases List.length_eq_zero_iff.mp hlength
      cases h
      exact ⟨nofun, nofun⟩
  | filesOf query =>
      cases List.length_eq_zero_iff.mp hlength
      obtain ⟨datasets, -, h⟩ := bind_eq_ok_iff.mp h
      cases h
      exact ⟨nofun, nofun⟩
  | list files =>
      cases List.length_eq_zero_iff.mp hlength
      obtain ⟨fragment, -, h⟩ := bind_eq_ok_iff.mp h
      cases h
      exact ⟨nofun, nofun⟩
  | named space name | datasets selector | datasetsHaving query predicate
  | datasetUnion parts | namedQueries space pattern => cases h

theorem fragment?_compileFiles_eq_none_iff {c : Compiled}
    (h : e.compileFiles o node needs = .ok c) : c.fragment? = none ↔ e.ContainsFilter o node := by
  rw [← compileCall_root] at h
  -- by induction on the calls of the compilation: a reference becomes what its stored tree does
  refine compileCall_induction (c := .root needs node)
    (p := fun node r => r.fragment? = none ↔ e.ContainsFilter o node) ?_ ?_ h
  · intro space name stored r hstored _ ih
    rw [ih, containsFilter_named_iff hstored]
  · intro needs node cs r hnamed hoperands hr
    by_cases hfilter : ∃ call inputs, node = .filter call inputs
    · obtain ⟨call, inputs, rfl⟩ := hfilter
      rw [Engine.finish] at hr
      split at hr
      · cases hr
      · cases hr
        exact ⟨fun _ => containsFilter_filter call inputs, fun _ => rfl⟩
    · have hother : ∀ call inputs, node ≠ .filter call inputs :=
        fun call inputs hsame => hfilter ⟨call, inputs, hsame⟩
      rw [fragment?_finish_eq_none_iff hother hoperands.length_eq.symm hr,
        containsFilter_iff_exists_hasPart hother]
      simp only [hasPart_iff_mem hnamed]
      exact exists_mem_congr_of_forall₂ hoperands

/-- A tree becomes a set of records, and one that no query is hidden in, where a filter stands in
it or in a stored query that it leads to through its operands for files; otherwise it becomes one
query. -/
theorem isRecords_iff_contains_filter {c : Compiled}
    (h : e.compileFiles o node needs = .ok c) :
    ((∃ files, c = .records files ∧ files.fragment? = none) ↔
        ∃ call inputs, e.Contains o node (.filter call inputs)) ∧
      ((∃ fragment, c = .query fragment) ↔
        ¬∃ call inputs, e.Contains o node (.filter call inputs)) := by
  have hnone := fragment?_compileFiles_eq_none_iff h
  rw [← compileCall_root] at h
  rw [Engine.ContainsFilter] at hnone
  rw [← hnone]
  cases c with
  | query fragment =>
      exact ⟨⟨nofun, nofun⟩, ⟨nofun, fun _ => ⟨fragment, rfl⟩⟩⟩
  | records files =>
      have hfiles : files.fragment? = none := has_compileCall h
      exact ⟨⟨fun _ => rfl, fun _ => ⟨files, rfl, hfiles⟩⟩,
        ⟨nofun, fun hquery => absurd rfl hquery⟩⟩

/-- An engine with a stored query that thins out the files and one that refers to it. -/
def thinningEngine : Engine where
  dialect := .sqlite
  filters := .ofList [("every_nth", Filter.everyNth)]
  queries := .ofList
    [(⟨"s", "thinned"⟩, "\x7b\"filter\":\x7b\"name\":\"every_nth\",\"positional\":[2]," ++
        "\"queries\":[\x7b\"basic_files\":\x7b\x7d\x7d]\x7d\x7d"),
      (⟨"s", "some"⟩, "\x7b\"named_query\":[\"s\",\"thinned\"]\x7d")]

def everySecond : FilterCall where
  name := "every_nth"
  positional := [.int 2]

theorem resolve_thinned :
    thinningEngine.queries.resolve ⟨"s", "thinned"⟩ = .ok (.filter everySecond [.everyFile]) :=
  NamedQueries.resolve_of_write (by decide +kernel) (by decide) (by decide)

theorem resolve_some :
    thinningEngine.queries.resolve ⟨"s", "some"⟩ = .ok (.named (some "s") "thinned") :=
  NamedQueries.resolve_of_write (by decide +kernel) (by decide) (by decide)

/-- All files but those that the second query leads to. -/
def leftoverTree : Node :=
  .minus .everyFile (.named (some "s") "some")

theorem isRecords_iff_contains_filter_thinning :
    (∃ c files, thinningEngine.compileFiles {} leftoverTree .ids = .ok c ∧ c = .records files ∧
        ∃ call inputs, thinningEngine.Contains {} leftoverTree (.filter call inputs)) ∧
      ∃ c fragment, thinningEngine.compileFiles {} (.limit .everyFile 3) .ids = .ok c ∧
        c = .query fragment ∧
        ¬∃ call inputs, thinningEngine.Contains {} (.limit .everyFile 3) (.filter call inputs) := by
  have hthinned : thinningEngine.compileCall {} (.root .ids (.named (some "s") "some")) =
      thinningEngine.compileCall {} ⟨[⟨"s", "some"⟩, ⟨"s", "thinned"⟩], .ids,
        .filter everySecond [.everyFile]⟩ :=
    (compileCall_of_not_mem ⟨some "s", rfl, rfl⟩ (by decide) resolve_some rfl).trans
      (compileCall_of_not_mem ⟨some "s", rfl, rfl⟩ (by decide) resolve_thinned rfl)
  have hcompile : ∃ c, thinningEngine.compileFiles {} leftoverTree .ids = .ok c := by
    have hminus : thinningEngine.compileFiles {} leftoverTree .ids =
        thinningEngine.compileCall {} (.root .ids (.named (some "s") "some")) >>= fun c =>
          .ok (thinningEngine.combine {} .except .ids
            (.query (.everyFile .sqlite none false .ids)) [c]) := rfl
    rw [hminus, hthinned]
    exact ⟨_, rfl⟩
  have hsome : thinningEngine.stored? {} (some "s") "some" = some (.named (some "s") "thinned") :=
    stored?_eq_some_iff.mpr ⟨"s", rfl, resolve_some⟩
  have hfilter : thinningEngine.stored? {} (some "s") "thinned" =
      some (.filter everySecond [.everyFile]) :=
    stored?_eq_some_iff.mpr ⟨"s", rfl, resolve_thinned⟩
  have hcontains : ∃ call inputs,
      thinningEngine.Contains {} leftoverTree (.filter call inputs) :=
    ⟨everySecond, [.everyFile], .head (.operand (List.mem_cons_of_mem _ List.mem_cons_self))
      (.head (.stored hsome) (.head (.stored hfilter) .refl))⟩
  obtain ⟨c, hc⟩ := hcompile
  obtain ⟨files, hfiles, -⟩ := (isRecords_iff_contains_filter hc).1.mpr hcontains
  have hfirst : thinningEngine.compileFiles {} (.limit .everyFile 3) .ids =
      .ok (.query ((Fragment.everyFile .sqlite none false .ids).limit 3 .ids)) := rfl
  exact ⟨⟨c, files, hc, hfiles, hcontains⟩, _, _, hfirst, rfl,
    (isRecords_iff_contains_filter hfirst).2.mp ⟨_, rfl⟩⟩

end CatalogQuery
