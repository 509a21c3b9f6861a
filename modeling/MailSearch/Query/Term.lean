import MailSearch.Calendar.Date
import MailSearch.Filter.Basic
import MailSearch.Logged
import MailSearch.Text.Case

/-!
# Terms

What a term `name:value` of a query asks for. Names are recognised in any letter case. Most name a text
attribute, `has:attachment` asks for attachments, and `before` and `after` bound the time by a date. A
term that asks for nothing is left to the keywords, with an event that says why.
-/

namespace MailSearch.Query

open Calendar

/-- The names of the text attributes in the query language. -/
def fieldNames : List (String × TextField) :=
  [("from", .sender), ("to", .recipient), ("cc", .copy), ("bcc", .blindCopy), ("subject", .subject),
   ("in", .ingestionSource), ("tag", .tag), ("folder", .folder), ("path", .folder)]

def dateFilter? (operator : Operator) (value : String) : Option Filter :=
  (Date.read? value).map fun date => .timestamp operator date.millis

/-- The filter of a term with a date, or the event that the date is none. -/
def resolveDate (key : String) (operator : Operator) (value : String) : Logged (Option Filter) :=
  match dateFilter? operator value with
  | some filter => pure (some filter)
  | none => .note (.invalidDate key value) none

def resolve (name value : String) : Logged (Option Filter) :=
  let key := Text.lower name
  if key = "has" ∧ Text.lower value = "attachment" then
    pure (some (.hasAttachments .eq true))
  else if key = "before" then resolveDate key .lt value
  else if key = "after" then resolveDate key .gte value
  else
    match fieldNames.lookup key with
    | some field => pure (some (.text field .eq value))
    | none => .note (.unknownField name) none

end MailSearch.Query
