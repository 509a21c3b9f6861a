import MailSearch.Text.Quoted

/-!
# Events

What the library has to say about input it put up with: a date that is none, a nesting that is too
deep, a setting out of range. Events are data; a definition that notices something returns it beside
its result (`Logged`), and the outer layer decides which events to show and how.
-/

namespace MailSearch

/-- How much an event matters, the least first. -/
inductive Level where
  | debug
  | warning
  | error
  deriving DecidableEq, Repr

namespace Level

def label : Level → String
  | debug => "DEBUG"
  | warning => "WARNING"
  | error => "ERROR"

end Level

inductive Event where
  /-- A query term bounds the time by a text that is no date. -/
  | invalidDate (term value : String)
  /-- A query term names no field. -/
  | unknownField (name : String)
  /-- The nesting asked for is beyond the ceiling. -/
  | depthCapped (requested ceiling : Int)
  /-- A query nests deeper than allowed. -/
  | nestingIgnored (limit : Int)
  /-- A setting is no positive integer. -/
  | invalidSetting (name raw : String) (fallback : Int)
  /-- A setting is beyond its ceiling. -/
  | settingCapped (name : String) (value ceiling : Int)
  /-- A page size is beyond the largest one. -/
  | limitClamped (limit maximum : Int)
  /-- A structured criterion bounds the time by a text that is no date. -/
  | dateIgnored (criterion value : String)
  /-- A request was refused. -/
  | requestRejected (reason : String)
  deriving DecidableEq, Repr

namespace Event

def level : Event → Level
  | invalidDate .. | unknownField .. | limitClamped .. | dateIgnored .. => .debug
  | depthCapped .. | nestingIgnored .. | invalidSetting .. | settingCapped .. => .warning
  | requestRejected .. => .error

/-- The name of the part of the program that an event is reported under. -/
def source : Event → String
  | invalidDate .. | unknownField .. => "archive_query.query.fields"
  | depthCapped .. | nestingIgnored .. => "archive_query.query.parser"
  | invalidSetting .. | settingCapped .. => "archive_query.search.config"
  | limitClamped .. | dateIgnored .. => "archive_query.search.request"
  | requestRejected .. => "archive_query.cli.commands"

def message : Event → String
  | invalidDate term value =>
    "Invalid " ++ term ++ ": date " ++ Text.quoted value ++ "; treating as keyword"
  | unknownField name => "Unknown field " ++ Text.quoted name ++ "; treating as keyword"
  | depthCapped requested ceiling =>
    "max_depth " ++ toString requested ++ " exceeds " ++ toString ceiling ++ "; capping"
  | nestingIgnored limit =>
    "Query nesting exceeds " ++ toString limit ++ " levels; deeper groups and NOTs are ignored"
  | invalidSetting name raw fallback =>
    "Invalid " ++ name ++ " " ++ Text.quoted raw ++ "; defaulting to " ++ toString fallback
  | settingCapped name value ceiling =>
    name ++ "=" ++ toString value ++ " exceeds " ++ toString ceiling ++ "; capping"
  | limitClamped limit maximum =>
    "Clamping limit " ++ toString limit ++ " to " ++ toString maximum
  | dateIgnored criterion value => "Ignoring invalid " ++ criterion ++ " " ++ Text.quoted value
  | requestRejected reason => "Invalid search request: " ++ reason

/-- An event on one line: level, source and text. -/
def line (event : Event) : String :=
  event.level.label ++ " " ++ event.source ++ ": " ++ event.message

/-- An event as a command reports it, the level padded to a column of eight. -/
def reportLine (event : Event) : String :=
  let label := event.level.label
  label ++ String.ofList (List.replicate (8 - label.length) ' ') ++ " " ++ event.source ++ " — " ++
    event.message

end Event

end MailSearch
