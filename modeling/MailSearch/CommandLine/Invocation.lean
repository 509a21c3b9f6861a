import MailSearch.CommandLine.Arguments
import MailSearch.Request.Basic

/-!
# Invocations

The command line has two commands. `parse QUERY` shows what a query comes to, and `request QUERY` the
parameters of the search request for it, with the criteria given as options. Before the command stand
the options that concern both.
-/

namespace MailSearch.CommandLine

/-- A command with all it needs. -/
inductive Command where
  | parse (query : String) (asJson : Bool)
  | request (draft : Request.Draft)

/-- Why no command is run. -/
inductive Refusal where
  /-- Help was asked for. -/
  | help
  /-- The words make no command. -/
  | usage
  deriving DecidableEq, Repr

/-! ### Options before the command -/

structure Common where
  verbose : Bool := false
  help : Bool := false
  deriving DecidableEq, Repr

/-- Whether a word is one or more verbose flags in their short form. -/
def isShortVerbose (word : String) : Bool :=
  match word.toList with
  | '-' :: 'v' :: rest => rest.all (· == 'v')
  | _ => false

/-- Reads the options before the command; also gives the words from the command on. -/
def readCommon? (common : Common) : List String → Option (Common × List String)
  | [] => some (common, [])
  | word :: rest =>
    if word = "--" then some (common, rest)
    else if word = "--help" then readCommon? { common with help := true } rest
    else if word = "--verbose" || isShortVerbose word then
      readCommon? { common with verbose := true } rest
    else if isOption word then none
    else some (common, word :: rest)

/-! ### The commands -/

def parseOptions : OptionTable :=
  [("--json", .flag), ("--help", .flag)]

def requestOptions : OptionTable :=
  [("--from", .value), ("--to", .value), ("--cc", .value), ("--bcc", .value),
   ("--date-from", .value), ("--date-to", .value), ("--has-attachments", .flag),
   ("--no-attachments", .flag), ("--in", .value), ("--tag", .value), ("--path", .value),
   ("--access-filter", .value), ("--page", .value), ("--limit", .value), ("--sort", .value),
   ("--matching-strategy", .value), ("--facet", .value), ("--attachments-only", .flag),
   ("--help", .flag)]

namespace Arguments

/-- The one operand of a command. -/
def operand (arguments : Arguments) : Except Refusal String :=
  match arguments.operands with
  | [query] => .ok query
  | _ => .error .usage

/-- The integer given for an option, if any is. -/
def integer (arguments : Arguments) (name : String) : Except Refusal (Option Int) :=
  match arguments.value? name with
  | none => .ok none
  | some text =>
    match Text.readInt? text with
    | some n => .ok (some n)
    | none => .error .usage

/-- The matching strategy given, or the default. -/
def strategy (arguments : Arguments) : Except Refusal String :=
  let name := (arguments.value? "--matching-strategy").getD MatchingStrategy.last.name
  if (MatchingStrategy.ofName? name).isSome then .ok name else .error .usage

def criteria (arguments : Arguments) : Criteria where
  sender := .ofText? (arguments.value? "--from")
  recipient := .ofText? (arguments.value? "--to")
  copy := .ofText? (arguments.value? "--cc")
  blindCopy := .ofText? (arguments.value? "--bcc")
  dateFrom := arguments.value? "--date-from"
  dateTo := arguments.value? "--date-to"
  hasAttachments :=
    ((arguments.lastOf? "--has-attachments" "--no-attachments").map Json.bool).getD .null
  ingestionSource := .ofText? (arguments.value? "--in")
  tags := (arguments.values "--tag").map .str
  folder := .ofText? (arguments.value? "--path")

end Arguments

def readParse (words : List String) : Except Refusal Command := do
  let some arguments := Arguments.read? parseOptions words | throw .usage
  if arguments.has "--help" then throw .help
  return .parse (← arguments.operand) (arguments.has "--json")

def readRequest (words : List String) : Except Refusal Command := do
  let some arguments := Arguments.read? requestOptions words | throw .usage
  if arguments.has "--help" then throw .help
  return .request {
    query := ← arguments.operand
    criteria := arguments.criteria
    accessFilter := arguments.value? "--access-filter"
    page := (← arguments.integer "--page").getD 1
    limit := ← arguments.integer "--limit"
    sort := arguments.value? "--sort"
    strategy := ← arguments.strategy
    facets := arguments.values "--facet"
    attachmentsOnly := arguments.has "--attachments-only" }

/-- The reader for the words of the command with a name. -/
def reader? (name : String) : Option (List String → Except Refusal Command) :=
  [("parse", readParse), ("request", readRequest)].lookup name

end MailSearch.CommandLine
