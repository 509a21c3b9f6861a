import MailSearch.Request.Criteria
import MailSearch.Request.Settings

/-!
# Search requests

A search request is everything the search engine needs for one page of results: the keywords, one
filter string and the window of results. Its filter string requires, in this order, the structured
criteria, the filters typed into the query, and the caller's access clause.

Main definitions: `Request`, `Request.Draft`, `Request.Draft.build`, `Request.params`.
-/

namespace MailSearch

/-- What the engine does with keywords that match no message. -/
inductive MatchingStrategy where
  | last
  | all
  | frequency
  deriving DecidableEq, Repr

namespace MatchingStrategy

def name : MatchingStrategy → String
  | last => "last"
  | all => "all"
  | frequency => "frequency"

def ofName? (name : String) : Option MatchingStrategy :=
  [last, all, frequency].find? (·.name == name)

theorem ofName?_name (strategy : MatchingStrategy) : ofName? strategy.name = some strategy := by
  cases strategy <;> decide

end MatchingStrategy

/-- A search request for one page of results. -/
structure Request where
  parsed : Query.Parsed
  filter : Option String
  page : Int
  limit : Int
  offset : Int
  sort : Option String
  strategy : MatchingStrategy
  facets : List String
  attachmentsOnly : Bool

namespace Request

inductive Error where
  | page (page : Int)
  | limit (limit : Int)
  | unknownStrategy (name : String)
  | filter (error : Filter.Error)

def Error.message : Error → String
  | page n => "page must be >= 1, got " ++ toString n
  | limit n => "limit must be >= 1, got " ++ toString n
  | unknownStrategy name => Text.quoted name ++ " is not a valid MatchingStrategy"
  | filter error => error.message

/-- What a caller asks for, before any check. -/
structure Draft where
  query : String
  criteria : Criteria := {}
  accessFilter : Option String := none
  page : Int := 1
  limit : Option Int := none
  sort : Option String := none
  strategy : String := MatchingStrategy.last.name
  facets : List String := []
  attachmentsOnly : Bool := false

/-- A computation that may end in a refusal, with the events up to there. -/
abbrev Checked := ExceptT Error Logged

/-- The size of a page: the one asked for or the default, lowered to the largest one. -/
def pageSize (settings : Settings) (asked : Option Int) : Checked Int := do
  let limit := asked.getD settings.defaultLimit
  if limit < 1 then throw (.limit limit)
  if limit > settings.maxLimit then
    (Logged.note (.limitClamped limit settings.maxLimit) settings.maxLimit : Logged Int)
  else
    return limit

def strategyNamed (name : String) : Checked MatchingStrategy :=
  match MatchingStrategy.ofName? name with
  | some strategy => pure strategy
  | none => throw (.unknownStrategy name)

/-- The clauses of the criteria, their errors being errors of the request. -/
def criteriaClauses (criteria : Criteria) : Checked (List String) :=
  ExceptT.adapt .filter criteria.clauses

/-- Checks a draft and assembles the request. The page is checked first, then its size, then the
strategy, then the criteria. -/
def Draft.build (settings : Settings) (draft : Draft) : Checked Request := do
  if draft.page < 1 then throw (.page draft.page)
  let limit ← pageSize settings draft.limit
  let strategy ← strategyNamed draft.strategy
  let parsed ← Query.parse draft.query settings.maxDepth
  let clauses ← criteriaClauses draft.criteria
  return {
    parsed
    filter := combineClauses (clauses.map some ++ [parsed.filter, draft.accessFilter])
    page := draft.page
    limit
    offset := (draft.page - 1) * limit
    sort := draft.sort
    strategy
    facets := draft.facets
    attachmentsOnly := draft.attachmentsOnly }

/-! ### Parameters for the engine -/

/-- The attributes that are searched when only attachments are. -/
def attachmentAttributes : List String :=
  ["attachments.filename", "attachments.content"]

/-- A member of a document, unless its text is missing or empty. -/
def memberIfGiven (key : String) (text : Option String) (value : String → Json) :
    List (String × Json) :=
  match text with
  | none => []
  | some text => if text.isEmpty then [] else [(key, value text)]

/-- The parameters of a request as the engine takes them. Those with nothing to say are left out. -/
def params (request : Request) : Json :=
  .obj (
    [("q", .str request.parsed.keywords),
     ("limit", .int request.limit),
     ("offset", .int request.offset),
     ("matchingStrategy", .str request.strategy.name)] ++
    memberIfGiven "filter" request.filter .str ++
    memberIfGiven "sort" request.sort (fun rule => .arr [.str rule]) ++
    (if request.attachmentsOnly then
      [("attributesToSearchOn", .arr (attachmentAttributes.map .str))]
     else []) ++
    (if request.facets.isEmpty then [] else [("facets", .arr (request.facets.map .str))]))

end Request

end MailSearch
