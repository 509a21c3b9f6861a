/-!
# Filterable fields and comparisons

The attributes of an archived message that a filter may test, each with the name it has in the index,
and the comparisons, each with its name and its symbol. Most attributes hold text; one says whether
the message has attachments, one is the time stamp.
-/

namespace MailSearch

inductive TextField where
  | sender
  | recipient
  | copy
  | blindCopy
  | subject
  | ingestionSource
  | tag
  | folder
  deriving DecidableEq, Repr

inductive Field where
  | text (field : TextField)
  | hasAttachments
  | timestamp
  deriving DecidableEq, Repr

namespace TextField

def name : TextField → String
  | sender => "from"
  | recipient => "to"
  | copy => "cc"
  | blindCopy => "bcc"
  | subject => "subject"
  | ingestionSource => "ingestionSourceId"
  | tag => "tags"
  | folder => "path"

end TextField

namespace Field

def name : Field → String
  | text field => field.name
  | hasAttachments => "hasAttachments"
  | timestamp => "timestamp"

def all : List Field :=
  [text .sender, text .recipient, text .copy, text .blindCopy, text .subject, hasAttachments,
   timestamp, text .ingestionSource, text .tag, text .folder]

theorem mem_all (field : Field) : field ∈ all := by
  rcases field with field | _ | _
  · cases field <;> decide
  · decide
  · decide

def ofName? (name : String) : Option Field :=
  all.find? (·.name == name)

/-- Looking up an attribute's own name finds it: no two share a name. -/
theorem ofName?_name (field : Field) : ofName? field.name = some field := by
  rcases field with field | _ | _
  · cases field <;> decide
  · decide
  · decide

end Field

inductive Operator where
  | eq
  | lt
  | gt
  | lte
  | gte
  deriving DecidableEq, Repr

namespace Operator

def name : Operator → String
  | eq => "eq"
  | lt => "lt"
  | gt => "gt"
  | lte => "lte"
  | gte => "gte"

/-- The symbol of a comparison in a filter string. -/
def symbol : Operator → String
  | eq => "="
  | lt => "<"
  | gt => ">"
  | lte => "<="
  | gte => ">="

def all : List Operator := [eq, lt, gt, lte, gte]

theorem mem_all (operator : Operator) : operator ∈ all := by
  cases operator <;> decide

def ofName? (name : String) : Option Operator :=
  all.find? (·.name == name)

theorem ofName?_name (operator : Operator) : ofName? operator.name = some operator := by
  cases operator <;> decide

end Operator

end MailSearch
