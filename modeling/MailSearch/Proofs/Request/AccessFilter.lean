import MailSearch.Proofs.FilterString.Acceptance
import MailSearch.Proofs.Request.Assembly

/-!
# The access clause

The access clause of a request is glued onto the request's own filters as it is, with no parentheses
around it. All that stands in front of it is closed, so the AND before it cannot be captured by
anything a user writes, and no record gets past it (`holds_access_of_holds_filter`).

The other way round it is not so. An OR of the access clause that stands outside of parentheses ends
the reach of that AND, and the records that are accepted for what comes after it need not meet the
request's own filters. `meetsOwn_iff_of_build` says when they do.
-/

namespace MailSearch.Request

open FilterString

/-- Whether a record meets a request's own filters: the clauses of the criteria, and the expression
of the query. -/
def MeetsOwn (meets : Comparison → Bool) (clauses : List String) (expression : Option Expr) :
    Prop :=
  (∀ clause ∈ clauses, Accepts meets clause) ∧ ∀ e ∈ expression, e.condition.holds meets = true

/-- A request's own filters as strings. -/
def ownParts (clauses : List String) (parsed : Query.Parsed) : List String :=
  clauses ++ parsed.filter.toList

theorem meetsOwn_iff {meets : Comparison → Bool} {clauses : List String} {parsed : Query.Parsed} :
    MeetsOwn meets clauses parsed.expression ↔
      ∀ part ∈ ownParts clauses parsed, Accepts meets part := by
  rw [MeetsOwn, ownParts, List.forall_mem_append, Query.Parsed.filter]
  cases parsed.expression with
  | none => simp
  | some e => simp [accepts_render_iff]

theorem isClosed_of_isClause {text : String} (h : Criteria.IsClause text) : IsClosed text := by
  cases h with
  | filter filter => exact isClosed_filter filter
  | anyOf hne => exact isClosed_anyOf hne

theorem isClosed_of_mem_ownParts {criteria : Criteria} {clauses : List String}
    (h : criteria.clauses.run.value = .ok clauses) (parsed : Query.Parsed) :
    ∀ part ∈ ownParts clauses parsed, IsClosed part := by
  rw [ownParts, List.forall_mem_append, Query.Parsed.filter]
  constructor
  · intro part hpart
    exact isClosed_of_isClause (Criteria.isClause_of_mem_clauses h part hpart)
  · cases parsed.expression with
    | none => simp
    | some e => simpa using isClosed_expr e

variable {settings : Settings} {draft : Draft} {request : Request} {clauses : List String}
  {access : String} {chain : Chain}

/-- A request with an access clause has its own filters and that clause joined. -/
theorem filter_of_build (hbuild : (draft.build settings).run.value = .ok request)
    (hclauses : draft.criteria.clauses.run.value = .ok clauses)
    (haccess : draft.accessFilter = some access) (hspelled : chain.SpelledBy access) :
    request.filter = some (" AND ".intercalate (ownParts clauses request.parsed ++ [access])) := by
  obtain ⟨-, limit, strategy, clauses', -, -, hclauses', rfl⟩ := Draft.build_eq_ok_iff.1 hbuild
  obtain rfl : clauses = clauses' := Except.ok.inj (hclauses.symm.trans hclauses')
  have hparts (parsed : Query.Parsed) :
      (clauses.map some ++ [parsed.filter, some access]).filterMap id
        = ownParts clauses parsed ++ [access] := by
    rw [ownParts]
    cases parsed.filter <;> simp
  rw [haccess, combineClauses_eq_some, hparts]
  · -- every clause is well formed, so none is empty
    intro text htext
    have hmem : text ∈ List.filterMap id _ := List.mem_filterMap.2 ⟨some text, htext, rfl⟩
    rw [hparts, List.mem_append] at hmem
    rcases hmem with hmem | hmem
    · obtain ⟨_, hown, -⟩ := isClosed_of_mem_ownParts hclauses _ text hmem
      exact hown.ne_empty
    · rw [List.mem_singleton.1 hmem]
      exact hspelled.ne_empty
  · rw [hparts]
    simp

/-- What the filter string of a request asks for: the request's own filters and what is before the
first OR of the access clause, or what is after that OR, if there is one. -/
theorem spelledBy_filter_of_build (hbuild : (draft.build settings).run.value = .ok request)
    (hclauses : draft.criteria.clauses.run.value = .ok clauses)
    (haccess : draft.accessFilter = some access) (hspelled : chain.SpelledBy access) :
    ∃ (filter : String) (whole : Chain), request.filter = some filter ∧ whole.SpelledBy filter ∧
      ((chain.isConjunction = true ∧ ∀ meets, whole.condition.holds meets = true ↔
          MeetsOwn meets clauses request.parsed.expression ∧ chain.condition.holds meets = true) ∨
        ∃ first rest : Chain, first.isConjunction = true ∧ chain = first.append .or rest ∧
          ∀ meets, whole.condition.holds meets = true ↔
            (MeetsOwn meets clauses request.parsed.expression ∧
                first.condition.holds meets = true) ∨
              rest.condition.holds meets = true) := by
  have hfilter := filter_of_build hbuild hclauses haccess hspelled
  have hown := isClosed_of_mem_ownParts hclauses request.parsed
  cases hconj : chain.isConjunction with
  | true =>
    have hall : ∀ part ∈ ownParts clauses request.parsed ++ [access], IsClosed part := by
      rw [List.forall_mem_append, List.forall_mem_singleton]
      exact ⟨hown, chain, hspelled, hconj⟩
    obtain ⟨⟨whole, hwhole, -⟩, haccepts⟩ := isClosed_intercalate (by simp) hall
    refine ⟨_, whole, hfilter, hwhole, .inl ⟨rfl, fun meets => ?_⟩⟩
    rw [← hwhole.accepts_iff, haccepts, List.forall_mem_append, List.forall_mem_singleton,
      meetsOwn_iff, hspelled.accepts_iff]
  | false =>
    obtain ⟨first, rest, hfirst, rfl⟩ := Chain.exists_first_or hconj
    obtain ⟨whole, hwhole, hholds⟩ := spelledBy_intercalate_or hown hfirst hspelled
    refine ⟨_, whole, hfilter, hwhole, .inr ⟨first, rest, hfirst, rfl, fun meets => ?_⟩⟩
    rw [hholds, meetsOwn_iff]

/-! ### No record gets past the access clause -/

/-- **The access clause is enforced.** If it is well formed, then so is the filter string of a
request that is built with it, and every record that the filter string accepts is one that the
access clause accepts. -/
theorem holds_access_of_holds_filter {condition : Condition}
    (hbuild : (draft.build settings).run.value = .ok request)
    (haccess : draft.accessFilter = some access) (hread : Condition.read? access = some condition) :
    ∃ (filter : String) (whole : Condition), request.filter = some filter ∧
      Condition.read? filter = some whole ∧
      ∀ meets, whole.holds meets = true → condition.holds meets = true := by
  obtain ⟨chain, hspelled, rfl⟩ := Condition.read?_eq_some_iff.1 hread
  obtain ⟨-, _, _, clauses, -, -, hclauses, -⟩ := Draft.build_eq_ok_iff.1 hbuild
  obtain ⟨filter, whole, hfilter, hwhole, hholds⟩ :=
    spelledBy_filter_of_build hbuild hclauses haccess hspelled
  refine ⟨filter, whole.condition, hfilter, Condition.read?_eq_some_iff.2 ⟨whole, hwhole, rfl⟩,
    fun meets h => ?_⟩
  rcases hholds with ⟨-, hiff⟩ | ⟨first, rest, -, rfl, hiff⟩
  · exact ((hiff meets).1 h).2
  · -- whichever side of the first OR accepts the record, it is a side of the access clause's own
    rw [Chain.holds_append_or, Bool.or_eq_true]
    exact ((hiff meets).1 h).imp And.right id

theorem holds_access_of_holds_filter_or :
    ∃ request,
      (Draft.build {} {
        query := "from:a OR (to:b"
        accessFilter := some "x = 1 OR y = 2" }).run.value = .ok request ∧
      ∃ (filter : String) (whole : Condition), request.filter = some filter ∧
        Condition.read? filter = some whole ∧
        ∀ meets, whole.holds meets = true →
          (meets ⟨"x", .eq, .int 1⟩ || meets ⟨"y", .eq, .int 2⟩) = true :=
  have hread : Condition.read? "x = 1 OR y = 2"
      = some (.or (.test ⟨"x", .eq, .int 1⟩) (.test ⟨"y", .eq, .int 2⟩)) := by decide +kernel
  ⟨_, Draft.build_query _ _, holds_access_of_holds_filter (Draft.build_query _ _) rfl hread⟩

/-! ### What the access clause lets through -/

/-- **When the request's own filters are enforced.** The access clause leaves them in force if it
has no OR outside of parentheses. Otherwise they are in force exactly if the records that are
accepted for what is after the first such OR happen to meet them. -/
theorem meetsOwn_iff_of_build {Record : Type} (meets : Record → Comparison → Bool)
    (hbuild : (draft.build settings).run.value = .ok request)
    (hclauses : draft.criteria.clauses.run.value = .ok clauses)
    (haccess : draft.accessFilter = some access) (hread : Chain.read? access = some chain) :
    ∃ filter : String, request.filter = some filter ∧
      ((chain.isConjunction = true ∧ ∀ record, Accepts (meets record) filter →
          MeetsOwn (meets record) clauses request.parsed.expression) ∨
        ∃ first rest : Chain, first.isConjunction = true ∧ chain = first.append .or rest ∧
          ((∀ record, Accepts (meets record) filter →
              MeetsOwn (meets record) clauses request.parsed.expression) ↔
            ∀ record, rest.condition.holds (meets record) = true →
              MeetsOwn (meets record) clauses request.parsed.expression)) := by
  have hspelled : chain.SpelledBy access := Chain.read?_eq_some_iff.1 hread
  obtain ⟨filter, whole, hfilter, hwhole, hholds⟩ :=
    spelledBy_filter_of_build hbuild hclauses haccess hspelled
  refine ⟨filter, hfilter, ?_⟩
  simp only [hwhole.accepts_iff]
  rcases hholds with ⟨hconj, hiff⟩ | ⟨first, rest, hfirst, hchain, hiff⟩
  · exact .inl ⟨hconj, fun record h => ((hiff _).1 h).1⟩
  · refine .inr ⟨first, rest, hfirst, hchain, fun hown record h => ?_, fun hrest record h => ?_⟩
    · exact hown record ((hiff _).2 (.inr h))
    · rcases (hiff _).1 h with ⟨hown, -⟩ | hafter
      · exact hown
      · exact hrest record hafter

theorem meetsOwn_iff_of_build_single :
    ∃ request,
      (Draft.build {} { query := "from:a", accessFilter := some "x = 1" }).run.value = .ok request ∧
      ∃ filter : String, request.filter = some filter ∧
        ∀ meets, Accepts meets filter → MeetsOwn meets [] request.parsed.expression := by
  have hread : Chain.read? "x = 1" = some (.single (.comparison ⟨"x", .eq, .int 1⟩)) :=
    Chain.read?_eq_some_iff.2 (show lex "x = 1" = some _ by decide +kernel)
  obtain ⟨filter, hfilter, hown⟩ :=
    meetsOwn_iff_of_build (fun record : Comparison → Bool => record)
      (Draft.build_query "from:a" (some "x = 1")) rfl rfl hread
  refine ⟨_, Draft.build_query _ _, filter, hfilter, ?_⟩
  rcases hown with ⟨-, hown⟩ | ⟨first, rest, -, hchain, -⟩
  · exact hown
  · cases rest <;> cases hchain

/-- An OR of the access clause that stands outside of parentheses lets records through that the
query does not ask for. -/
theorem accepts_without_meetsOwn :
    ∃ request,
      (Draft.build {} {
        query := "from:a"
        accessFilter := some "userId = \"u1\" OR userId = \"u2\"" }).run.value = .ok request ∧
      (Condition.read? "userId = \"u1\" OR userId = \"u2\"").isSome = true ∧
      ∃ (filter : String) (meets : Comparison → Bool), request.filter = some filter ∧
        Accepts meets filter ∧ ¬ MeetsOwn meets [] request.parsed.expression := by
  let meets : Comparison → Bool := fun comparison => comparison == ⟨"userId", .eq, .text "u2"⟩
  have hexpression : (Query.parse "from:a" Query.defaultMaxDepth).value.expression
      = some (.leaf (.text .sender .eq "a")) := by decide +kernel
  refine ⟨_, Draft.build_query _ _, by decide +kernel,
    "from = \"a\" AND userId = \"u1\" OR userId = \"u2\"", meets, by decide +kernel,
    ⟨.or (.and (.test ⟨"from", .eq, .text "a"⟩) (.test ⟨"userId", .eq, .text "u1"⟩))
      (.test ⟨"userId", .eq, .text "u2"⟩), by decide +kernel, by decide +kernel⟩, ?_⟩
  rintro ⟨-, hmeets⟩
  have hleaf : meets ⟨"from", .eq, .text "a"⟩ = true := hmeets _ hexpression
  revert hleaf
  decide +kernel

end MailSearch.Request
