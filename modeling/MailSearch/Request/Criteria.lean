import MailSearch.Query.Term

/-!
# Structured criteria

Criteria that a search form sends beside the query text. Each one that is given becomes one clause of
the filter string. The values come from outside, so they are JSON of any type; a value of the wrong
type is an error of the request, and the first one in clause order is reported.
-/

namespace MailSearch

structure Criteria where
  sender : Json := .null
  recipient : Json := .null
  copy : Json := .null
  blindCopy : Json := .null
  dateFrom : Option String := none
  dateTo : Option String := none
  hasAttachments : Json := .null
  ingestionSource : Json := .null
  tags : List Json := []
  folder : Json := .null

namespace Criteria

/-- A computation that may end in an error about a filter, with the events up to there. -/
abbrev Checked := ExceptT Filter.Error Logged

/-- A comparison for equality as a clause. -/
def clause (field : Field) (value : Json) : Checked String :=
  match Filter.check field .eq value with
  | .ok filter => pure filter.render
  | .error error => throw error

/-- The clause of a text criterion, if it is given. -/
def textClause (field : TextField) (value : Json) : Checked (List String) :=
  if value.isPopulated then return [← clause (.text field) value] else return []

/-- The clause of a bound on the time, if it is given. A text that is no date is ignored. -/
def dateClause (criterion : String) (operator : Operator) (value : Option String) :
    Logged (List String) :=
  match value with
  | none => pure []
  | some text =>
    if text.isEmpty then pure []
    else
      match Query.dateFilter? operator text with
      | some filter => pure [filter.render]
      | none => .note (.dateIgnored criterion text) []

/-- The clause on attachments, given unless null. -/
def attachmentsClause (value : Json) : Checked (List String) :=
  match value with
  | .null => return []
  | value => return [← clause .hasAttachments value]

/-- The clause on tags, any of which will do. -/
def tagsClause (tags : List Json) : Checked (List String) :=
  match tags with
  | [] => return []
  | tags => return ["(" ++ " OR ".intercalate (← tags.mapM (clause (.text .tag))) ++ ")"]

/-- The clauses of the criteria that are given, in order. -/
def clauses (criteria : Criteria) : Checked (List String) := do
  let sender ← textClause .sender criteria.sender
  let recipient ← textClause .recipient criteria.recipient
  let copy ← textClause .copy criteria.copy
  let blindCopy ← textClause .blindCopy criteria.blindCopy
  let dateFrom ← dateClause "date_from" .gte criteria.dateFrom
  let dateTo ← dateClause "date_to" .lte criteria.dateTo
  let hasAttachments ← attachmentsClause criteria.hasAttachments
  let ingestionSource ← textClause .ingestionSource criteria.ingestionSource
  let tags ← tagsClause criteria.tags
  let folder ← textClause .folder criteria.folder
  return sender ++ recipient ++ copy ++ blindCopy ++ dateFrom ++ dateTo ++ hasAttachments ++
    ingestionSource ++ tags ++ folder

end Criteria

/-- Joins the clauses that are there and not empty, all of them required. -/
def combineClauses (clauses : List (Option String)) : Option String :=
  match clauses.filterMap (·.filter (!·.isEmpty)) with
  | [] => none
  | parts => some (" AND ".intercalate parts)

end MailSearch
