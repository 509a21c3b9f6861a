import MailSearch.Proofs.Request.Assembly

/-!
# What a request is refused for

A request is refused for its envelope and its criteria, never for its query. `Draft.faults` lists
all that is wrong with a draft, in the order of the checks, and `Draft.build_refused` says that a
draft is refused exactly if there is something on that list, with the first error on it.

The checks come one after the other, and none of them looks at what those before it have found. So
a sequence of checks fails with the first failure among them (`refusal?_bind`), and the list of
faults follows the checks as they are sequenced.
-/

namespace MailSearch

/-! ### Sequences of checks -/

section

variable {ε α β : Type}

/-- The error that a computation ends in, if it ends in one. -/
def refusal? (x : ExceptT ε Logged α) : Option ε :=
  match x.run.value with
  | .ok _ => none
  | .error e => some e

theorem refusal?_eq_some_iff {x : ExceptT ε Logged α} {e : ε} :
    refusal? x = some e ↔ x.run.value = .error e := by
  unfold refusal?
  cases x.run.value <;> simp

theorem refusal?_eq_none_iff {x : ExceptT ε Logged α} :
    refusal? x = none ↔ ∃ a, x.run.value = .ok a := by
  unfold refusal?
  cases x.run.value <;> simp

@[simp] theorem refusal?_pure (a : α) : refusal? (pure a : ExceptT ε Logged α) = none := rfl

@[simp] theorem refusal?_throw (e : ε) : refusal? (throw e : ExceptT ε Logged α) = some e := rfl

@[simp] theorem refusal?_lift (x : Logged α) : refusal? (liftM x : ExceptT ε Logged α) = none := rfl

/-- A sequence fails where its first part does, or else where the second does, if that does not
depend on the result of the first. -/
theorem refusal?_bind {x : ExceptT ε Logged α} {f : α → ExceptT ε Logged β} {later : Option ε}
    (h : ∀ a, refusal? (f a) = later) : refusal? (x >>= f) = (refusal? x).or later := by
  unfold refusal?
  rw [ExceptT.run_bind, Logged.value_bind]
  cases x.run.value with
  | ok a => exact h a
  | error e => rfl

theorem refusal?_adapt {ε' : Type} (f : ε → ε') (x : ExceptT ε Logged α) :
    refusal? (ExceptT.adapt f x) = (refusal? x).map f := by
  have hrun : (ExceptT.adapt f x).run.value = Except.mapError f x.run.value := by
    rw [ExceptT.run_adapt]
    rfl
  unfold refusal?
  rw [hrun]
  cases x.run.value <;> rfl

end

/-! ### Values and attributes -/

/-- Whether an attribute can be compared with a value. -/
def Field.accepts : Field → Json → Bool
  | .text _, .str _ => true
  | .hasAttachments, .bool _ => true
  | .timestamp, .int _ => true
  | _, _ => false

/-- The errors of the values that are of a wrong type for their attribute, in order. -/
def wrongTypes (values : List (Field × Json)) : List Filter.Error :=
  (values.filter fun (field, value) => !field.accepts value).map fun (field, value) =>
    .wrongType field value

theorem wrongTypes_append (values others : List (Field × Json)) :
    wrongTypes (values ++ others) = wrongTypes values ++ wrongTypes others := by
  simp [wrongTypes]

namespace Criteria

/-- A text criterion, if it is given. -/
def textValue (field : TextField) (value : Json) : List (Field × Json) :=
  if value.isPopulated then [(.text field, value)] else []

/-- The criterion on attachments, given unless null. -/
def attachmentsValue : Json → List (Field × Json)
  | .null => []
  | value => [(.hasAttachments, value)]

/-- The values that are checked, each with the attribute it is for, in the order of the checks. The
bounds on the time are not among them, since a text that is no date is ignored. -/
def values (criteria : Criteria) : List (Field × Json) :=
  textValue .sender criteria.sender ++ textValue .recipient criteria.recipient ++
    textValue .copy criteria.copy ++ textValue .blindCopy criteria.blindCopy ++
    attachmentsValue criteria.hasAttachments ++
    textValue .ingestionSource criteria.ingestionSource ++
    criteria.tags.map (fun tag => (.text .tag, tag)) ++ textValue .folder criteria.folder

theorem refusal?_clause (field : Field) (value : Json) :
    refusal? (clause field value) = (wrongTypes [(field, value)]).head? := by
  unfold clause
  cases field <;> cases value <;> rfl

theorem refusal?_textClause (field : TextField) (value : Json) :
    refusal? (textClause field value) = (wrongTypes (textValue field value)).head? := by
  unfold textClause textValue
  split
  · rw [refusal?_bind fun _ => refusal?_pure _, Option.or_none, refusal?_clause]
  · rfl

theorem refusal?_attachmentsClause (value : Json) :
    refusal? (attachmentsClause value) = (wrongTypes (attachmentsValue value)).head? := by
  cases value with
  | null => rfl
  | _ => exact (refusal?_bind fun _ => refusal?_pure _).trans Option.or_none

/-- Values that are checked in a row fail with the first that is of a wrong type. Induction on the
values. -/
theorem refusal?_mapM_clause (field : Field) (values : List Json) :
    refusal? (values.mapM (clause field))
      = (wrongTypes (values.map fun value => (field, value))).head? := by
  induction values with
  | nil => rfl
  | cons value values ih =>
    have hsplit : wrongTypes ((value :: values).map fun value => (field, value))
        = wrongTypes [(field, value)] ++ wrongTypes (values.map fun value => (field, value)) :=
      wrongTypes_append [(field, value)] _
    rw [List.mapM_cons, refusal?_bind fun _ => refusal?_bind fun _ => refusal?_pure _,
      Option.or_none, refusal?_clause, ih, hsplit, List.head?_append]

theorem refusal?_tagsClause (tags : List Json) :
    refusal? (tagsClause tags)
      = (wrongTypes (tags.map fun tag => (.text .tag, tag))).head? := by
  rw [← refusal?_mapM_clause]
  cases tags with
  | nil => rfl
  | cons tag tags => exact (refusal?_bind fun _ => refusal?_pure _).trans Option.or_none

/-- **Criteria are refused for the first value of a wrong type**, among those that are given. -/
theorem refusal?_clauses (criteria : Criteria) :
    refusal? criteria.clauses = (wrongTypes criteria.values).head? := by
  have hsequence := refusal?_bind (x := textClause .sender criteria.sender) fun sender =>
    refusal?_bind (x := textClause .recipient criteria.recipient) fun recipient =>
    refusal?_bind (x := textClause .copy criteria.copy) fun copy =>
    refusal?_bind (x := textClause .blindCopy criteria.blindCopy) fun blindCopy =>
    refusal?_bind (x := liftM (dateClause "date_from" .gte criteria.dateFrom)) fun dateFrom =>
    refusal?_bind (x := liftM (dateClause "date_to" .lte criteria.dateTo)) fun dateTo =>
    refusal?_bind (x := attachmentsClause criteria.hasAttachments) fun hasAttachments =>
    refusal?_bind (x := textClause .ingestionSource criteria.ingestionSource) fun source =>
    refusal?_bind (x := tagsClause criteria.tags) fun tags =>
    refusal?_bind (x := textClause .folder criteria.folder) fun folder =>
    refusal?_pure (ε := Filter.Error) (sender ++ recipient ++ copy ++ blindCopy ++ dateFrom ++
      dateTo ++ hasAttachments ++ source ++ tags ++ folder)
  refine Eq.trans hsequence ?_
  simp only [refusal?_textClause, refusal?_lift, refusal?_attachmentsClause, refusal?_tagsClause,
    values, wrongTypes_append, List.head?_append, Option.or_assoc, Option.none_or, Option.or_none]

end Criteria

namespace Request

/-! ### Drafts -/

/-- All that is wrong with a draft, in the order of the checks: its page, the size of a page, the
strategy, and the values of its criteria. -/
def Draft.faults (settings : Settings) (draft : Draft) : List Error :=
  let limit := draft.limit.getD settings.defaultLimit
  (if draft.page < 1 then [.page draft.page] else []) ++
    (if limit < 1 then [.limit limit] else []) ++
    (if draft.strategy ∈ ["last", "all", "frequency"] then []
      else [.unknownStrategy draft.strategy]) ++
    (wrongTypes draft.criteria.values).map .filter

theorem refusal?_pageSize (settings : Settings) (asked : Option Int) :
    refusal? (pageSize settings asked)
      = if asked.getD settings.defaultLimit < 1 then
          some (.limit (asked.getD settings.defaultLimit))
        else none := by
  unfold pageSize
  simp only
  split
  · rfl
  · split <;> rfl

theorem refusal?_strategyNamed (name : String) :
    refusal? (strategyNamed name)
      = if name ∈ ["last", "all", "frequency"] then none else some (.unknownStrategy name) := by
  have hunknown : MatchingStrategy.ofName? name = none ↔ name ∉ ["last", "all", "frequency"] := by
    simp [MatchingStrategy.ofName?, MatchingStrategy.name, eq_comm (b := name)]
  unfold strategyNamed
  cases hname : MatchingStrategy.ofName? name with
  | some strategy =>
    have hmem : name ∈ ["last", "all", "frequency"] := by
      by_contra hnot
      rw [hunknown.2 hnot] at hname
      cases hname
    rw [if_pos hmem]
    rfl
  | none =>
    rw [if_neg (hunknown.1 hname)]
    rfl

/-- **A draft is refused for the first thing that is wrong with it.** -/
theorem refusal?_build (settings : Settings) (draft : Draft) :
    refusal? (draft.build settings) = (draft.faults settings).head? := by
  have hcriteria : refusal? (criteriaClauses draft.criteria)
      = ((wrongTypes draft.criteria.values).map Error.filter).head? := by
    rw [criteriaClauses, refusal?_adapt, Criteria.refusal?_clauses, List.head?_map]
  unfold Draft.build
  by_cases hpage : draft.page < 1
  · rw [if_pos hpage]
    simp only [Draft.faults, if_pos hpage]
    rfl
  · rw [if_neg hpage]
    refine (refusal?_bind fun limit => refusal?_bind fun strategy => refusal?_bind fun parsed =>
      refusal?_bind fun clauses => refusal?_pure _).trans ?_
    rw [refusal?_pageSize, refusal?_strategyNamed, refusal?_lift, hcriteria]
    simp only [Draft.faults, if_neg hpage, List.head?_append, apply_ite List.head?, List.head?_cons,
      List.head?_nil, Option.or_assoc, Option.none_or, Option.or_none]

/-- **A request is refused for its envelope and its criteria, and for nothing else.** It is refused
exactly if something is wrong with it, and then for what the checks come to first. The query, the
access clause, the sort rule, the facets and the restriction to attachments have no part in it:
another draft that differs in these alone is refused alike. Each filter that a query comes to passes
the check of its value, whatever the query is. -/
theorem Draft.build_refused (settings : Settings) (draft : Draft) :
    (∀ error, (draft.build settings).run.value = .error error ↔
      (draft.faults settings).head? = some error) ∧
    ((∃ request, (draft.build settings).run.value = .ok request) ↔ draft.faults settings = []) ∧
    (∀ query accessFilter sort facets attachmentsOnly error,
      ({ draft with query, accessFilter, sort, facets, attachmentsOnly }.build settings).run.value
          = .error error ↔
        (draft.build settings).run.value = .error error) ∧
    ∀ filter ∈ (Query.parse draft.query settings.maxDepth).value.filters,
      Filter.check filter.field filter.operator filter.value = .ok filter := by
  refine ⟨fun error => ?_, ?_, fun query accessFilter sort facets attachmentsOnly error => ?_,
    fun filter _ => Filter.check_self filter⟩
  · rw [← refusal?_eq_some_iff, refusal?_build]
  · rw [← refusal?_eq_none_iff, refusal?_build, List.head?_eq_none_iff]
  · -- the list of faults mentions none of the fields that differ
    have hfaults : Draft.faults settings
        { draft with query, accessFilter, sort, facets, attachmentsOnly }
          = draft.faults settings := rfl
    rw [← refusal?_eq_some_iff, ← refusal?_eq_some_iff, refusal?_build, refusal?_build, hfaults]

/-- A number for an address and a tag that is null: the address comes first. -/
theorem Draft.build_refused_address :
    let draft : Draft :=
      { query := "from:a OR (", criteria := { copy := .int 5, tags := [.str "a", .null] } }
    (draft.build {}).run.value = .error (.filter (.wrongType (.text .copy) (.int 5))) ∧
      Filter.check (.text .sender) .eq (.str "a") = .ok (.text .sender .eq "a") := by
  intro draft
  obtain ⟨hrefused, -, -, hchecked⟩ := Draft.build_refused {} draft
  have hfilter : Filter.text .sender .eq "a" ∈ (Query.parse draft.query 64).value.filters := by
    decide +kernel
  exact ⟨(hrefused _).2 rfl, hchecked _ hfilter⟩

end Request

end MailSearch
