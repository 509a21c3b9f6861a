import MailSearch.Request.Basic
import Mathlib.Data.List.Basic

/-!
# How a request is assembled

A request that is built has passed every check on the way, and its filter string is made of three
things: the clauses of the criteria, the filter string of the query, and the access clause.
`Draft.build_eq_ok_iff` says so without the monad that reports errors and events. A clause of the
criteria is one filter or an OR of filters in parentheses (`Criteria.isClause_of_mem_clauses`),
whatever values the criteria have.
-/

namespace MailSearch

namespace Logged

/-! ### Computations that succeed -/

variable {ε α β : Type}

/-- A sequence succeeds if its first part does, and then what comes after it. -/
theorem value_run_bind_eq_ok_iff {x : ExceptT ε Logged α} {f : α → ExceptT ε Logged β} {b : β} :
    (x >>= f).run.value = .ok b ↔ ∃ a, x.run.value = .ok a ∧ (f a).run.value = .ok b := by
  rw [ExceptT.run_bind, value_bind]
  cases x.run.value with
  | ok a => simp
  | error e => simp

@[simp] theorem value_run_pure (a : α) : (pure a : ExceptT ε Logged α).run.value = .ok a := rfl

@[simp] theorem value_run_lift (x : Logged α) :
    (liftM x : ExceptT ε Logged α).run.value = .ok x.value := rfl

end Logged

open Logged

namespace Criteria

/-! ### Clauses -/

/-- The clauses that criteria come to: a filter, or an OR of filters in parentheses. -/
inductive IsClause : String → Prop where
  | filter (filter : Filter) : IsClause filter.render
  | anyOf {filters : List Filter} (h : filters ≠ []) :
      IsClause ("(" ++ " OR ".intercalate (filters.map Filter.render) ++ ")")

theorem clause_eq_ok {field : Field} {value : Json} {text : String}
    (h : (clause field value).run.value = .ok text) : ∃ filter : Filter, filter.render = text := by
  rw [clause] at h
  split at h
  · rename_i filter _
    exact ⟨filter, Except.ok.inj h⟩
  · cases h

theorem isClause_of_textClause {field : TextField} {value : Json} {out : List String}
    (h : (textClause field value).run.value = .ok out) : ∀ text ∈ out, IsClause text := by
  rw [textClause] at h
  split at h
  · rw [value_run_bind_eq_ok_iff] at h
    obtain ⟨text, htext, hout⟩ := h
    obtain ⟨filter, rfl⟩ := clause_eq_ok htext
    cases Except.ok.inj hout
    simpa using IsClause.filter filter
  · cases Except.ok.inj h
    simp

theorem isClause_of_dateClause (criterion : String) (operator : Operator) (value : Option String) :
    ∀ text ∈ (dateClause criterion operator value).value, IsClause text := by
  rw [dateClause.eq_def]
  split
  · simp
  · split
    · simp
    · split
      · rename_i filter _
        simpa using IsClause.filter filter
      · simp

theorem isClause_of_attachmentsClause {value : Json} {out : List String}
    (h : (attachmentsClause value).run.value = .ok out) : ∀ text ∈ out, IsClause text := by
  rw [attachmentsClause.eq_def] at h
  split at h
  · cases Except.ok.inj h
    simp
  · rw [value_run_bind_eq_ok_iff] at h
    obtain ⟨text, htext, hout⟩ := h
    obtain ⟨filter, rfl⟩ := clause_eq_ok htext
    cases Except.ok.inj hout
    simpa using IsClause.filter filter

/-- Clauses of several values are filters, as many as there are values. -/
theorem mapM_clause_eq_ok {field : Field} {values : List Json} {texts : List String}
    (h : (values.mapM (clause field)).run.value = .ok texts) :
    ∃ filters : List Filter,
      filters.map Filter.render = texts ∧ filters.length = values.length := by
  induction values generalizing texts with
  | nil =>
    cases Except.ok.inj h
    exact ⟨[], rfl, rfl⟩
  | cons value values ih =>
    rw [List.mapM_cons] at h
    simp only [value_run_bind_eq_ok_iff, value_run_pure, Except.ok.injEq] at h
    obtain ⟨text, htext, texts', htexts, rfl⟩ := h
    obtain ⟨filter, rfl⟩ := clause_eq_ok htext
    obtain ⟨filters, rfl, hlength⟩ := ih htexts
    exact ⟨filter :: filters, rfl, congrArg (· + 1) hlength⟩

theorem isClause_of_tagsClause {tags : List Json} {out : List String}
    (h : (tagsClause tags).run.value = .ok out) : ∀ text ∈ out, IsClause text := by
  rw [tagsClause.eq_def] at h
  split at h
  · cases Except.ok.inj h
    simp
  · rename_i hne
    rw [value_run_bind_eq_ok_iff] at h
    obtain ⟨texts, htexts, hout⟩ := h
    obtain ⟨filters, rfl, hlength⟩ := mapM_clause_eq_ok htexts
    -- there are as many filters as tags, so the parentheses are not empty
    have hfilters : filters ≠ [] := by
      rintro rfl
      exact hne (List.eq_nil_of_length_eq_zero hlength.symm)
    cases Except.ok.inj hout
    simpa using IsClause.anyOf hfilters

/-- **Whatever the criteria are, what they come to is a list of clauses.** -/
theorem isClause_of_mem_clauses {criteria : Criteria} {out : List String}
    (h : criteria.clauses.run.value = .ok out) : ∀ text ∈ out, IsClause text := by
  rw [clauses] at h
  simp only [value_run_bind_eq_ok_iff, value_run_lift, value_run_pure, Except.ok.injEq,
    exists_eq_left'] at h
  obtain ⟨sender, hsender, recipient, hrecipient, copy, hcopy, blindCopy, hblindCopy, attachments,
    hattachments, source, hsource, tags, htags, folder, hfolder, rfl⟩ := h
  simp only [List.mem_append]
  rintro text (((((((((h | h) | h) | h) | h) | h) | h) | h) | h) | h)
  · exact isClause_of_textClause hsender text h
  · exact isClause_of_textClause hrecipient text h
  · exact isClause_of_textClause hcopy text h
  · exact isClause_of_textClause hblindCopy text h
  · exact isClause_of_dateClause _ _ _ text h
  · exact isClause_of_dateClause _ _ _ text h
  · exact isClause_of_attachmentsClause hattachments text h
  · exact isClause_of_textClause hsource text h
  · exact isClause_of_tagsClause htags text h
  · exact isClause_of_textClause hfolder text h

end Criteria

/-! ### Joining clauses -/

/-- Where no clause is empty, those that are there are joined. -/
theorem combineClauses_eq_some {clauses : List (Option String)}
    (hne : ∀ text, some text ∈ clauses → text ≠ "") (hsome : clauses.filterMap id ≠ []) :
    combineClauses clauses = some (" AND ".intercalate (clauses.filterMap id)) := by
  have hkeep : clauses.filterMap (·.filter (!·.isEmpty)) = clauses.filterMap id := by
    refine List.filterMap_congr fun clause hclause => ?_
    cases clause with
    | none => rfl
    | some text =>
      have hfull : (!text.isEmpty) = true := by simp [hne text hclause]
      exact if_pos hfull
  rw [combineClauses, hkeep]
  split
  · contradiction
  · rfl

/-- A filter string that is there is kept as it is. -/
theorem combineClauses_filter {filter : Option String} (h : ∀ text ∈ filter, text ≠ "") :
    combineClauses [filter, none] = filter := by
  cases filter with
  | none => rfl
  | some text => simp [combineClauses, Option.filter, h text rfl]

namespace Request

/-! ### Requests -/

/-- A page size that is positive is lowered to the largest one. -/
theorem value_pageSize {settings : Settings} {asked : Option Int}
    (h : 1 ≤ asked.getD settings.defaultLimit) :
    (pageSize settings asked).run.value
      = .ok (min (asked.getD settings.defaultLimit) settings.maxLimit) := by
  have hnot : ¬ asked.getD settings.defaultLimit < 1 := Int.not_lt.2 h
  unfold pageSize
  simp only [if_neg hnot]
  by_cases hlarge : asked.getD settings.defaultLimit > settings.maxLimit
  · rw [if_pos hlarge, Int.min_eq_right (Int.le_of_lt hlarge)]
    rfl
  · rw [if_neg hlarge, Int.min_eq_left (Int.not_lt.1 hlarge)]
    rfl

theorem criteriaClauses_eq_ok_iff {criteria : Criteria} {clauses : List String} :
    (criteriaClauses criteria).run.value = .ok clauses ↔
      criteria.clauses.run.value = .ok clauses := by
  rw [criteriaClauses, ExceptT.run_adapt]
  show Except.mapError Error.filter criteria.clauses.run.value = .ok clauses ↔ _
  cases criteria.clauses.run.value with
  | ok out => simp [Except.mapError]
  | error e => simp [Except.mapError]

/-- **A request is built exactly if every check passes**, and then it is this one. -/
theorem Draft.build_eq_ok_iff {settings : Settings} {draft : Draft} {request : Request} :
    (draft.build settings).run.value = .ok request ↔
      1 ≤ draft.page ∧ ∃ limit strategy clauses,
        (pageSize settings draft.limit).run.value = .ok limit ∧
        (strategyNamed draft.strategy).run.value = .ok strategy ∧
        draft.criteria.clauses.run.value = .ok clauses ∧
        request = {
          parsed := (Query.parse draft.query settings.maxDepth).value
          filter := combineClauses (clauses.map some ++
            [(Query.parse draft.query settings.maxDepth).value.filter, draft.accessFilter])
          page := draft.page
          limit
          offset := (draft.page - 1) * limit
          sort := draft.sort
          strategy
          facets := draft.facets
          attachmentsOnly := draft.attachmentsOnly } := by
  rw [Draft.build]
  by_cases hpage : draft.page < 1
  · rw [if_pos hpage]
    constructor
    · intro h
      obtain ⟨_, hthrow, -⟩ := value_run_bind_eq_ok_iff.1 h
      cases hthrow
    · intro h
      omega
  · rw [if_neg hpage]
    simp only [value_run_bind_eq_ok_iff, value_run_lift, value_run_pure, criteriaClauses_eq_ok_iff,
      Except.ok.injEq, exists_eq_left']
    constructor
    · rintro ⟨limit, hlimit, strategy, hstrategy, clauses, hclauses, rfl⟩
      exact ⟨by omega, limit, strategy, clauses, hlimit, hstrategy, hclauses, rfl⟩
    · rintro ⟨-, limit, strategy, clauses, hlimit, hstrategy, hclauses, rfl⟩
      exact ⟨limit, hlimit, strategy, hstrategy, clauses, hclauses, rfl⟩

/-- A query and an access clause alone are never refused. -/
theorem Draft.build_query (query : String) (accessFilter : Option String) :
    (Draft.build {} { query, accessFilter }).run.value = .ok {
      parsed := (Query.parse query Query.defaultMaxDepth).value
      filter := combineClauses
        [(Query.parse query Query.defaultMaxDepth).value.filter, accessFilter]
      page := 1
      limit := 10
      offset := 0
      sort := none
      strategy := .last
      facets := []
      attachmentsOnly := false } :=
  Draft.build_eq_ok_iff.2 ⟨Int.le_refl 1, 10, .last, [], rfl, rfl, rfl, rfl⟩

end Request

end MailSearch
