import MailSearch.CommandLine.Invocation
import MailSearch.CommandLine.Markup
import MailSearch.CommandLine.Table
import MailSearch.Json.Printer

/-!
# Running a command

What a command line comes to in an environment: an exit code, the text for standard output and the events
for the log. The settings are read before the command's own words are, so their warnings come first.

Main definition: `run`.
-/

namespace MailSearch.CommandLine

open Layout

/-- The effect of a command line. -/
structure Outcome where
  exitCode : Nat
  stdout : String := ""
  reported : List Event := []
  deriving DecidableEq, Repr

def Outcome.log (outcome : Outcome) : List String :=
  outcome.reported.map Event.reportLine

/-! ### Showing a parsed query -/

/-- The value of a filter as a table shows it. -/
def valueCell (filter : Filter) : String :=
  Markup.shown filter.value.render

/-- The row of a filter, under its number. -/
def filterRow (filter : Filter) (number : Nat) : List String :=
  [toString number, filter.field.name, filter.operator.name, valueCell filter]

/-- No value takes more cells of a line than this. -/
def maxValueWidth : Nat := 60

/-- The width of the column with the values: that of its widest cell, up to a limit. -/
def valueWidth (filters : List Filter) : Nat :=
  let texts := "Value" :: filters.map valueCell
  min ((texts.map fun text => Text.cells text.toList).foldl max 0) maxValueWidth

/-- The filters of a query as a table. -/
def filterTable (filters : List Filter) : List (List Char) :=
  Table.lines [⟨"#", 3⟩, ⟨"Field", 18⟩, ⟨"Op", 4⟩, ⟨"Value", valueWidth filters⟩]
    (filters.mapIdx fun i filter => filterRow filter (i + 1))

/-- The keywords of a query for people to read. -/
def shownKeywords (keywords : String) : String :=
  if keywords.isEmpty then "(none)" else Markup.shown keywords

/-- The lines of a parsed query for people to read. -/
def reportLines (parsed : Query.Parsed) : List (List Char) :=
  (if parsed.filters.isEmpty then console "No field filters." else filterTable parsed.filters) ++
    console ("  Keywords: " ++ shownKeywords parsed.keywords) ++
    match parsed.filter with
    | none => []
    | some filter => console ("  Filter:   " ++ Markup.shown filter)

/-- A parsed query for people to read. -/
def report (parsed : Query.Parsed) : String :=
  unlines (reportLines parsed)

def document (json : Json) : String :=
  json.render ++ "\n"

/-! ### Commands -/

def perform (settings : Settings) : Command → Logged (Nat × String)
  | .parse query asJson => do
    let parsed ← Query.parse query settings.maxDepth
    return (0, if asJson then document parsed.toJson else report parsed)
  | .request draft => do
    match ← (draft.build settings).run with
    | .ok request => return (0, document request.params)
    | .error error =>
      let reason := error.message
      Logged.note (.requestRejected reason) (1, unlines (console ("Invalid request: " ++ reason)))

/-- The exit code that a refusal ends in. -/
def Refusal.exitCode : Refusal → Nat
  | help => 0
  | usage => 2

/-- Reads the settings, then the words of a command, and performs it. -/
def performWords (environment : Environment) (reader : List String → Except Refusal Command)
    (words : List String) : Logged (Nat × String) := do
  let settings ← Settings.read environment
  match reader words with
  | .ok command => perform settings command
  | .error refusal => return (refusal.exitCode, "")

/-- The events to report: those of a verbose command line all, otherwise warnings and errors. -/
def toReport (verbose : Bool) (events : List Event) : List Event :=
  events.filter fun event => verbose || event.level != .debug

/-- The refusal of words that start with no command. Options where the command should stand are
still looked at. -/
def refuseUnknown (words : List String) : Refusal :=
  match readCommon? {} words with
  | some ({ help := true, .. }, _) => .help
  | _ => .usage

def run (environment : Environment) (words : List String) : Outcome :=
  match readCommon? {} words with
  | none => { exitCode := Refusal.usage.exitCode }
  | some ({ help := true, .. }, _) => { exitCode := Refusal.help.exitCode }
  | some (_, []) => { exitCode := Refusal.usage.exitCode }
  | some (common, name :: rest) =>
    match reader? name with
    | none => { exitCode := (refuseUnknown (name :: rest)).exitCode }
    | some reader =>
      let result := performWords environment reader rest
      { exitCode := result.value.1
        stdout := result.value.2
        reported := toReport common.verbose result.events }

end MailSearch.CommandLine
