import MailSearch.Proofs.Query.Flat
import MailSearch.Proofs.Query.Residue
import MailSearch.Proofs.Query.Writing
import MailSearch.Proofs.Request.Assembly

/-!
# Search forms, typed and structured

What is filled in on a search form can be sent in two ways: as structured criteria, or as a query
that has a term for each entry. Both build a request with the same filter string
(`SearchForm.filter_typed_eq_filter_structured`), whatever texts the entries hold.

The criteria become clauses one by one, and the query is cut into terms that are resolved and joined
by the parser. `SearchForm.filters` is what both come to: the criteria because a clause is the
rendering of a filter, the query because its terms are cut off as they were written, and because
without an OR or a NOT all of its filters are required.
-/

namespace MailSearch

/-! ### Terms -/

/-- The name that a text attribute is asked for by. -/
def TextField.queryName : TextField → String
  | sender => "from"
  | recipient => "to"
  | copy => "cc"
  | blindCopy => "bcc"
  | subject => "subject"
  | ingestionSource => "in"
  | tag => "tag"
  | folder => "path"

namespace Query

open Text

/-- A name of a text attribute asks for that attribute. -/
theorem value_resolve_of_mem_fieldNames {name : String} {field : TextField}
    (h : (name, field) ∈ fieldNames) (value : String) :
    (resolve name value).value = some (.text field .eq value) := by
  have hnames : ∀ entry ∈ fieldNames,
      lower entry.1 ∉ ["has", "before", "after"] ∧
        fieldNames.lookup (lower entry.1) = some entry.2 := by
    decide
  obtain ⟨hother, hlookup⟩ := hnames _ h
  simp only [List.mem_cons, List.not_mem_nil, or_false, not_or] at hother
  obtain ⟨hhas, hbefore, hafter⟩ := hother
  simp only [resolve, hhas, hbefore, hafter, hlookup, false_and, if_false]
  rfl

theorem value_resolve_queryName (field : TextField) (value : String) :
    (resolve field.queryName value).value = some (.text field .eq value) :=
  value_resolve_of_mem_fieldNames (by cases field <;> decide) value

theorem value_resolve_after (value : String) :
    (resolve "after" value).value = dateFilter? .gte value := by
  have hlower : lower "after" = "after" := by decide
  simp only [resolve, hlower, resolveDate]
  cases dateFilter? .gte value <;> rfl

theorem isName_of_all {name : String} (hne : name.toList ≠ [])
    (hall : name.toList.all isWord = true) : IsName name.toList :=
  ⟨hne, List.all_eq_true.1 hall⟩

theorem isName_queryName (field : TextField) : IsName field.queryName.toList := by
  cases field <;> exact isName_of_all (by decide) (by decide)

end Query

/-- The filter string of the request that a draft builds, with the settings as they are by
default. -/
def Request.Draft.filter (draft : Draft) : Except Error (Option String) :=
  (draft.build {}).run.value.map Request.filter

/-! ### Forms -/

namespace SearchForm

/-- An entry of a search form that is filled in. -/
inductive Entry
  | text (field : TextField) (value : String)
  | dateFrom (value : String)
  | withAttachments

namespace Entry

/-- The term of a query that asks for an entry. -/
def term : Entry → String
  | text field value => Query.writtenField field.queryName value
  | dateFrom value => Query.writtenField "after" value
  | withAttachments => "has:attachment"

/-- What an entry asks for. A date that cannot be read asks for nothing. -/
def filter? : Entry → Option Filter
  | text field value => some (.text field .eq value)
  | dateFrom value => Query.dateFilter? .gte value
  | withAttachments => some (.hasAttachments .eq true)

/-- The term of an entry, taken apart. -/
def token (entry : Entry) : Query.Token :=
  match entry with
  | text field value => .field field.queryName value entry.term
  | dateFrom value => .field "after" value entry.term
  | withAttachments => .field "has" "attachment" entry.term

theorem isPlain_token (entry : Entry) : entry.token.IsPlain := by
  cases entry <;> exact ⟨nofun, nofun⟩

/-- A term is resolved to what its entry asks for. -/
theorem filter?_token (entry : Entry) : entry.token.filter? = entry.filter? := by
  cases entry with
  | text field value => exact Query.value_resolve_queryName field value
  | dateFrom value => exact Query.value_resolve_after value
  | withAttachments => decide

/-- A term is cut off as one lexeme, whatever its value is. -/
theorem isCutFrom_term (entry : Entry) : entry.token.IsCutFrom entry.term := by
  cases entry with
  | text field value =>
    exact (Query.Token.WrittenAs.field value (Query.isName_queryName field)).isCutFrom
  | dateFrom value =>
    have hname : Query.IsName "after".toList := Query.isName_of_all (by decide) (by decide)
    exact (Query.Token.WrittenAs.field value hname).isCutFrom
  | withAttachments =>
    -- the one value without quotes
    have hname : Query.IsName "has".toList := Query.isName_of_all (by decide) (by decide)
    have hvalue : Query.IsBareText "attachment".toList :=
      ⟨by decide, List.all_eq_true.1 (by decide)⟩
    refine ⟨.bareField, Query.Form.token_bareField hname _, fun rest hrest => ?_⟩
    refine .bareField hname hvalue hrest ?_
    rintro tail ⟨⟩

end Entry

end SearchForm

/-- A search form as it is filled in. A text may be missing or empty. -/
structure SearchForm where
  sender : Option String := none
  recipient : Option String := none
  copy : Option String := none
  blindCopy : Option String := none
  dateFrom : Option String := none
  withAttachments : Bool := false
  ingestionSource : Option String := none
  folder : Option String := none

namespace SearchForm

/-- The text of a field, unless it is missing or empty. -/
def given (text : Option String) : List String :=
  (text.filter (!·.isEmpty)).toList

theorem given_some {text : String} (h : text ≠ "") : given (some text) = [text] := by
  simp [given, Option.filter, h]

/-- The entries of a form, in the order of the clauses of criteria. -/
def entries (form : SearchForm) : List Entry :=
  (given form.sender).map (.text .sender) ++
    (given form.recipient).map (.text .recipient) ++
    (given form.copy).map (.text .copy) ++
    (given form.blindCopy).map (.text .blindCopy) ++
    (given form.dateFrom).map .dateFrom ++
    (if form.withAttachments then [.withAttachments] else []) ++
    (given form.ingestionSource).map (.text .ingestionSource) ++
    (given form.folder).map (.text .folder)

/-- A form sent as a query: the terms of its entries. -/
def typed (form : SearchForm) : Request.Draft where
  query := " ".intercalate (form.entries.map Entry.term)

/-- A form sent as structured criteria. -/
def structured (form : SearchForm) : Request.Draft where
  query := ""
  criteria := {
    sender := .ofText? form.sender
    recipient := .ofText? form.recipient
    copy := .ofText? form.copy
    blindCopy := .ofText? form.blindCopy
    dateFrom := form.dateFrom
    hasAttachments := if form.withAttachments then .bool true else .null
    ingestionSource := .ofText? form.ingestionSource
    folder := .ofText? form.folder }

/-- A form in which no date is filled in. -/
def withoutDate (form : SearchForm) : SearchForm :=
  { form with dateFrom := none }

def filters (form : SearchForm) : List Filter :=
  form.entries.filterMap Entry.filter?

/-- What a form asks for as a filter string, if it asks for anything. -/
def filter (form : SearchForm) : Option String :=
  if form.filters = [] then none else some (Filter.renderAll form.filters)

theorem ne_empty_of_mem_filter (form : SearchForm) : ∀ text ∈ form.filter, text ≠ "" := by
  unfold filter
  split
  · nofun
  · rename_i hfilters
    rintro _ ⟨⟩
    exact Filter.renderAll_ne_empty hfilters

/-! ### The form as criteria -/

theorem value_textClause (field : TextField) (text : Option String) :
    (Criteria.textClause field (.ofText? text)).run.value
      = .ok ((((given text).map (Entry.text field)).filterMap Entry.filter?).map
          Filter.render) := by
  cases text with
  | none => rfl
  | some text =>
    by_cases hempty : text = ""
    · rw [hempty]
      rfl
    · have hpopulated : (Json.str text).isPopulated = true := by simp [Json.isPopulated, hempty]
      rw [given_some hempty, Criteria.textClause, Json.ofText?, if_pos hpopulated]
      rfl

theorem value_dateClause (criterion : String) (text : Option String) :
    (Criteria.dateClause criterion .gte text).value
      = (((given text).map Entry.dateFrom).filterMap Entry.filter?).map Filter.render := by
  cases text with
  | none => rfl
  | some text =>
    by_cases hempty : text = ""
    · rw [hempty]
      rfl
    · have hfull : text.isEmpty = false := by simp [hempty]
      rw [given_some hempty, Criteria.dateClause, hfull]
      cases hdate : Query.dateFilter? .gte text with
      | none => simp [Entry.filter?, hdate]
      | some filter => simp [Entry.filter?, hdate]

theorem value_attachmentsClause (wanted : Bool) :
    (Criteria.attachmentsClause (if wanted then .bool true else .null)).run.value
      = .ok (((if wanted then [Entry.withAttachments] else []).filterMap Entry.filter?).map
          Filter.render) := by
  cases wanted <;> rfl

variable (form : SearchForm)

/-- **The clauses of a form are its filters.** -/
theorem value_clauses_structured :
    form.structured.criteria.clauses.run.value = .ok (form.filters.map Filter.render) := by
  simp only [Criteria.clauses, structured, Logged.value_run_bind_eq_ok_iff, Logged.value_run_lift,
    Logged.value_run_pure, value_textClause, value_dateClause, value_attachmentsClause,
    Except.ok.injEq, exists_eq_left']
  refine ⟨[], rfl, ?_⟩
  simp only [filters, entries, List.filterMap_append, List.map_append, List.append_assoc,
    List.nil_append]
  rfl

/-! ### The form as a query -/

/-- A form that is typed is cut into the terms of its entries. -/
theorem tokenize_typed : Query.tokenize form.typed.query = form.entries.map Entry.token := by
  apply Query.tokenize_intercalate_isCutFrom
  rw [List.forall₂_map_left_iff, List.forall₂_map_right_iff, List.forall₂_same]
  exact fun entry _ => entry.isCutFrom_term

/-- **The filter string of a form that is typed is the list of its filters.** -/
theorem filter_parse_typed (maxDepth : Int) :
    (Query.parse form.typed.query maxDepth).value.filter = form.filter := by
  have hplain : ∀ token ∈ form.entries.map Entry.token, token.IsPlain :=
    List.forall_mem_map.2 fun entry _ => entry.isPlain_token
  have hfilters : (form.entries.map Entry.token).filterMap Query.Token.filter? = form.filters := by
    rw [List.filterMap_map, filters]
    exact List.filterMap_congr fun entry _ => entry.filter?_token
  rw [Query.parse_value_eq, tokenize_typed, Query.filter_parseTokens_of_isPlain maxDepth hplain,
    hfilters, filter]

/-! ### Requests -/

theorem combineClauses_filters (filters : List Filter) :
    combineClauses ((filters.map Filter.render).map some ++ [none, none]) =
      if filters = [] then none else some (Filter.renderAll filters) := by
  by_cases hfilters : filters = []
  · rw [if_pos hfilters, hfilters]
    rfl
  · have hclauses : ((filters.map Filter.render).map some ++ [none, none]).filterMap id
        = filters.map Filter.render := by
      simp
    rw [if_neg hfilters, combineClauses_eq_some, hclauses]
    · rfl
    · intro text htext
      have hmem : text ∈ filters.map Filter.render := by simpa using htext
      obtain ⟨filter, -, rfl⟩ := List.mem_map.1 hmem
      exact filter.render_ne_empty
    · rw [hclauses]
      exact mt List.map_eq_nil_iff.1 hfilters

theorem filter_typed : form.typed.filter = .ok form.filter := by
  -- a draft of nothing but a query, so there are no clauses before its filter string
  have hdraft : form.typed = { query := form.typed.query, accessFilter := none } := rfl
  rw [hdraft, Request.Draft.filter, Request.Draft.build_query]
  simp only [Except.map]
  rw [filter_parse_typed, combineClauses_filter form.ne_empty_of_mem_filter]

theorem filter_structured : form.structured.filter = .ok form.filter := by
  have hbuild : (form.structured.build {}).run.value = .ok _ :=
    Request.Draft.build_eq_ok_iff.2
      ⟨Int.le_refl 1, 10, .last, _, rfl, rfl, form.value_clauses_structured, rfl⟩
  -- after the clauses come the filter string of the empty query and the access clause: none
  have hnoQuery :
      (Query.parse form.structured.query ({} : Settings).maxDepth).value.filter = none := rfl
  have hnoAccess : form.structured.accessFilter = none := rfl
  rw [Request.Draft.filter, hbuild, hnoQuery, hnoAccess]
  simp only [Except.map]
  rw [combineClauses_filters, filter]

/-- A date that cannot be read is as good as none. -/
theorem filter_withoutDate {text : String} (hdate : form.dateFrom = some text)
    (hread : Calendar.Date.read? text = none) : form.withoutDate.filter = form.filter := by
  have hnothing : ((given form.dateFrom).map Entry.dateFrom).filterMap Entry.filter? = [] := by
    rw [hdate]
    by_cases hempty : text = ""
    · rw [hempty]
      rfl
    · simp [given_some hempty, Entry.filter?, Query.dateFilter?, hread]
  have hfilters : form.withoutDate.filters = form.filters := by
    simp only [filters, entries, List.filterMap_append, hnothing]
    rfl
  rw [filter, hfilters]
  rfl

/-- **A form that is typed and a form that is structured ask for the same.** Both build a request,
and both requests have the same filter string, or none. A date that cannot be read contributes to
neither. -/
theorem filter_typed_eq_filter_structured (form : SearchForm) :
    ∃ filter : Option String,
      form.typed.filter = .ok filter ∧ form.structured.filter = .ok filter ∧
      ∀ text, form.dateFrom = some text → Calendar.Date.read? text = none →
        form.withoutDate.typed.filter = .ok filter ∧
          form.withoutDate.structured.filter = .ok filter := by
  refine ⟨form.filter, form.filter_typed, form.filter_structured, fun text hdate hread => ?_⟩
  rw [filter_typed, filter_structured, form.filter_withoutDate hdate hread]
  exact ⟨rfl, rfl⟩

/-- A sender with a quote, a backslash, a parenthesis and the word of an operator, and a day that
there was not. -/
theorem filter_typed_eq_filter_structured_no_such_day :
    let form : SearchForm :=
      { sender := some "a\"b\\) OR", dateFrom := some "2023-02-29", withAttachments := true }
    let filter := some "from = \"a\\\"b\\\\) OR\" AND hasAttachments = true"
    form.typed.filter = .ok filter ∧ form.structured.filter = .ok filter ∧
      form.withoutDate.typed.filter = .ok filter ∧
        form.withoutDate.structured.filter = .ok filter := by
  intro form filter
  obtain ⟨same, htyped, hstructured, hdate⟩ := filter_typed_eq_filter_structured form
  have hfilter : form.filter = filter := by decide
  obtain rfl : filter = same := by
    rw [filter_typed, hfilter] at htyped
    exact Except.ok.inj htyped
  exact ⟨htyped, hstructured, hdate "2023-02-29" rfl (by decide)⟩

end SearchForm

end MailSearch
