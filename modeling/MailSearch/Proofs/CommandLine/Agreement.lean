import MailSearch.CommandLine.Run
import MailSearch.Proofs.FilterString.Acceptance
import MailSearch.Proofs.Json.Printing
import MailSearch.Proofs.Query.Leaves
import MailSearch.Proofs.Query.Residue
import MailSearch.Proofs.Request.Assembly
import MailSearch.Proofs.Request.Environment

/-!
# The two commands agree

`parse --json` prints what a query comes to, and `request` the parameters of the search for it. They do so
in different ways: `request` checks a draft first, joins the filter string of the query with the clauses of
other criteria, and leaves out what is empty. Both print the same keywords and the same filter string
nevertheless, in every environment (`run_parse_request`).

Settings from the environment are positive, so a query alone is never refused
(`Request.Draft.build_of_query`). No filter string is left out for being empty, since none is
(`Expr.render_ne_empty`). And what a run prints is one document and no other
(`CommandLine.Outcome.Prints`).
-/

namespace MailSearch

open Logged

/-! ### Filter strings of queries -/

theorem Expr.render_ne_empty (e : Expr) : e.render ≠ "" :=
  e.spelledBy_render.ne_empty

namespace Query

theorem Parsed.ne_empty_of_mem_filter (parsed : Parsed) : ∀ text ∈ parsed.filter, text ≠ "" := by
  intro text htext
  obtain ⟨e, -, rfl⟩ := Option.map_eq_some_iff.1 htext
  exact e.render_ne_empty

/-- Leaving out what is empty leaves out no filter string. -/
theorem Parsed.filter_isEmpty_filter (parsed : Parsed) :
    parsed.filter.filter (!·.isEmpty) = parsed.filter := by
  cases hfilter : parsed.filter with
  | none => rfl
  | some text => simp [Option.filter, parsed.ne_empty_of_mem_filter text hfilter]

/-- A query has a filter string unless it has no filters. -/
theorem filter_parse_eq_none_iff (text : String) (maxDepth : Int) :
    (parse text maxDepth).value.filter = none ↔ (parse text maxDepth).value.filters = [] := by
  rw [parse_value_eq, ← leavesOf_parseTokens, Expr.leavesOf_eq_nil_iff, Parsed.filter,
    Option.map_eq_none_iff]

end Query

/-! ### Requests for a query alone -/

namespace Request

/-- **A query alone is never refused**, and its request has the keywords and the filter string of the
query. -/
theorem Draft.build_of_query {settings : Settings} (h : 1 ≤ settings.defaultLimit) (query : String) :
    ∃ request, (Draft.build settings { query }).run.value = .ok request ∧
      request.parsed = (Query.parse query settings.maxDepth).value ∧
      request.filter = (Query.parse query settings.maxDepth).value.filter := by
  refine ⟨_, Draft.build_eq_ok_iff.2
    ⟨Int.le_refl 1, _, .last, [], value_pageSize h, rfl, rfl, rfl⟩, rfl, ?_⟩
  exact combineClauses_filter (Query.Parsed.ne_empty_of_mem_filter _)

/-- A member is left out if its text is missing or empty. -/
theorem lookup_memberIfGiven (key name : String) (text : Option String) (value : String → Json) :
    (memberIfGiven name text value).lookup key
      = if key = name then (text.filter (!·.isEmpty)).map value else none := by
  cases text with
  | none => simp [memberIfGiven]
  | some text =>
    by_cases hempty : text = ""
    · simp [memberIfGiven, Option.filter, hempty]
    · by_cases hkey : key = name
      · simp [memberIfGiven, Option.filter, hempty, hkey]
      · have hbeq : (key == name) = false := beq_eq_false_iff_ne.2 hkey
        simp [memberIfGiven, hempty, hkey, List.lookup_cons, hbeq]

theorem member?_q_params (request : Request) :
    request.params.member? "q" = some (.str request.parsed.keywords) := rfl

/-- The parameters have the filter string of a request, unless it is empty. -/
theorem member?_filter_params (request : Request) :
    request.params.member? "filter" = (request.filter.filter (!·.isEmpty)).map .str := by
  have hattributes : (if request.attachmentsOnly then
      [("attributesToSearchOn", Json.arr (attachmentAttributes.map .str))]
      else []).lookup "filter" = none := by
    split <;> rfl
  have hfacets : (if request.facets.isEmpty then [] else
      [("facets", Json.arr (request.facets.map .str))]).lookup "filter" = none := by
    split <;> rfl
  have hothers : List.lookup "filter"
      [("q", Json.str request.parsed.keywords), ("limit", .int request.limit),
        ("offset", .int request.offset), ("matchingStrategy", .str request.strategy.name)] = none :=
    rfl
  simp only [params, Json.member?, List.lookup_append, lookup_memberIfGiven, hothers, hattributes,
    hfacets, if_true, Option.none_or, Option.or_none]
  rw [if_neg (by decide), Option.or_none]

end Request

namespace CommandLine

/-! ### Words -/

/-- The word `--` ends the options. -/
theorem read?_endOfOptions (table : OptionTable) (words : List String) :
    Arguments.read? table ("--" :: words) = some { operands := words } := by
  rw [Arguments.read?, if_pos rfl]

/-- A flag is an option without a value. -/
theorem read?_flag {table : OptionTable} {flag : String} (hne : flag ≠ "--")
    (hoption : isOption flag = true) (hsplit : splitOption flag = (flag, none))
    (hflag : table.lookup flag = some .flag) (words : List String) :
    Arguments.read? table (flag :: words)
      = (Arguments.read? table words).map (Arguments.addOption flag none) := by
  rw [Arguments.read?, if_neg hne, if_pos hoption]
  simp only [hsplit, hflag]

theorem readParse_json (query : String) :
    readParse ["--json", "--", query] = .ok (.parse query true) := by
  have hread : Arguments.read? parseOptions ["--json", "--", query]
      = some { options := [("--json", none)], operands := [query] } := by
    rw [read?_flag (by decide) (by decide) (by decide) (by decide), read?_endOfOptions]
    rfl
  rw [readParse, hread]
  rfl

theorem readRequest_query (query : String) :
    readRequest ["--", query] = .ok (.request { query }) := by
  rw [readRequest, read?_endOfOptions]
  rfl

/-! ### Runs -/

theorem readCommon?_of_isOption {word : String} (h : isOption word = false) (common : Common)
    (rest : List String) : readCommon? common (word :: rest) = some (common, word :: rest) := by
  have hne (option : String) (hoption : isOption option = true) : word ≠ option := by
    rintro rfl
    rw [h] at hoption
    cases hoption
  have hverbose : isShortVerbose word = false := by
    unfold isShortVerbose
    split
    · rename_i rest heq
      rw [isOption, heq] at h
      cases h
    · rfl
  rw [readCommon?, if_neg (hne "--" (by decide)), if_neg (hne "--help" (by decide))]
  simp [hne "--verbose" (by decide), hverbose, h]

/-- A word that is no option names the command, and the words after it are the command's own. -/
theorem run_command (environment : Environment) (name : String)
    {reader : List String → Except Refusal Command}
    {words : List String} {command : Command} (hname : isOption name = false)
    (hreader : reader? name = some reader) (hcommand : reader words = .ok command) :
    let result := (perform (Settings.read environment).value command).value
    (run environment (name :: words)).exitCode = result.1 ∧
      (run environment (name :: words)).stdout = result.2 := by
  rw [run, readCommon?_of_isOption hname]
  simp only [hreader, performWords, hcommand]
  exact ⟨rfl, rfl⟩

theorem document_injective : Function.Injective document := by
  intro a b h
  exact Json.render_injective ((String.append_left_inj "\n").1 h)

/-- Whether a run succeeds and prints a document and no other. -/
structure Outcome.Prints (outcome : Outcome) (json : Json) : Prop where
  exitCode : outcome.exitCode = 0
  stdout_iff : ∀ other, outcome.stdout = document other ↔ other = json

theorem Outcome.prints_of_stdout {outcome : Outcome} {json : Json} (hexit : outcome.exitCode = 0)
    (hstdout : outcome.stdout = document json) : outcome.Prints json where
  exitCode := hexit
  stdout_iff other := by
    rw [hstdout, document_injective.eq_iff, eq_comm]

theorem run_parse (environment : Environment) (query : String) :
    (run environment ["parse", "--json", "--", query]).Prints
      (Query.parse query (Settings.read environment).value.maxDepth).value.toJson := by
  obtain ⟨hexit, hstdout⟩ :=
    run_command environment "parse" (by decide) rfl (readParse_json query)
  exact Outcome.prints_of_stdout hexit hstdout

theorem perform_request {settings : Settings} {draft : Request.Draft} {request : Request}
    (h : (draft.build settings).run.value = .ok request) :
    (perform settings (.request draft)).value = (0, document request.params) := by
  rw [perform, value_bind, h]
  rfl

theorem run_request (environment : Environment) (query : String) :
    let parsed := (Query.parse query (Settings.read environment).value.maxDepth).value
    ∃ request : Request,
      (run environment ["request", "--", query]).Prints request.params ∧
      request.parsed = parsed ∧ request.filter = parsed.filter := by
  have hlimit : 1 ≤ (Settings.read environment).value.defaultLimit :=
    Setting.one_le_value_read environment .defaultLimit
  obtain ⟨request, hbuild, hparsed, hfilter⟩ := Request.Draft.build_of_query hlimit query
  obtain ⟨hexit, hstdout⟩ :=
    run_command environment "request" (by decide) rfl (readRequest_query query)
  rw [perform_request hbuild] at hexit hstdout
  exact ⟨request, Outcome.prints_of_stdout hexit hstdout, hparsed, hfilter⟩

/-- **The two commands agree** on every query, in every environment. Both succeed and print a document,
`parse` what the query comes to. The keywords that the one shows are those that the other searches for, and
the filter string that the one shows is that of the other, with null for none. There is no filter string
exactly if there are no filters. -/
theorem run_parse_request (environment : Environment) (query : String) :
    let parsed := (Query.parse query (Settings.read environment).value.maxDepth).value.toJson
    (run environment ["parse", "--json", "--", query]).Prints parsed ∧
    ∃ request : Json, (run environment ["request", "--", query]).Prints request ∧
      ∃ (keywords : String) (filter : Option String) (filters : List Json),
        parsed.member? "keywords" = some (.str keywords) ∧
        request.member? "q" = some (.str keywords) ∧
        parsed.member? "filter" = some (.ofText? filter) ∧
        request.member? "filter" = filter.map .str ∧
        parsed.member? "filters" = some (.arr filters) ∧
        (filter = none ↔ filters = []) := by
  refine ⟨run_parse environment query, ?_⟩
  obtain ⟨request, hrequest, hparsed, hfilter⟩ := run_request environment query
  refine ⟨request.params, hrequest, _, _, _, rfl, ?_, rfl, ?_, rfl, ?_⟩
  · rw [request.member?_q_params, hparsed]
  · rw [request.member?_filter_params, hfilter, Query.Parsed.filter_isEmpty_filter]
  · rw [List.map_eq_nil_iff, Query.filter_parse_eq_none_iff]

end CommandLine

end MailSearch
