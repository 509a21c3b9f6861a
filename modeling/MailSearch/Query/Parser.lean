import MailSearch.Query.Lexeme
import MailSearch.Query.Parsed
import MailSearch.Query.Term

/-!
# The query parser

The language, the loosest connective first:

```text
or_expr  := and_expr ("OR" and_expr)*
and_expr := not_expr (("AND" | implicit) not_expr)*
not_expr := "NOT" not_expr | primary
primary  := "(" or_expr ")" | field | keyword | quoted
```

The implicit AND stands only before a field term, a NOT or an opening parenthesis. Field terms that
resolve to a filter make up the expression; all other words are kept as keywords and stand for nothing
in it. An absent side leaves the other side of a connective as it is.

The parser is a machine that takes one token at a time and never fails. It keeps, for the group it is
in and for each group around it, the disjunction and the conjunction read so far and the negations that
wait for an operand. Its rules for input outside the language are these: where an operand is due, an
operator or a closing parenthesis is dropped and counts as an absent operand; a keyword after an operand
ends every open group and starts anew; a closing parenthesis outside all groups starts anew too; groups
still open at the end are closed there. Negations and groups nest up to a limit, past which they are
dropped, with one warning.

Main definitions: `Parser.step`, `Parser.harvest`, `parseTokens`, `parse`.
-/

namespace MailSearch.Query

/-- The nesting allowed unless a query is parsed with another limit. -/
def defaultMaxDepth : Int := 64

/-- No limit on the nesting goes beyond this. -/
def maxDepthCeiling : Int := 100

/-! ### Groups -/

/-- What has been read of a group: the operands of OR so far, those of AND since the last OR, and the
negations since the last operand. -/
structure Group where
  disjunction : Option Expr := none
  conjunction : Option Expr := none
  negations : Nat := 0
  deriving DecidableEq, Repr

namespace Group

/-- Adds an operand, under the negations that waited for it. An absent operand drops them. -/
def addOperand (group : Group) (operand : Option Expr) : Group :=
  { group with
    conjunction := Option.merge .and group.conjunction (operand.map (Expr.negate group.negations))
    negations := 0 }

/-- The disjunction of all that has been read. -/
def value (group : Group) : Option Expr :=
  Option.merge .or group.disjunction group.conjunction

/-- Starts the next operand of OR. -/
def nextAlternative (group : Group) : Group :=
  { group with disjunction := group.value, conjunction := none }

/-- How deep a token is in the groups around its own: one level for each of them and for each negation
that waits there. -/
def nesting : List Group → Nat
  | [] => 0
  | group :: enclosing => group.negations + 1 + nesting enclosing

end Group

/-! ### The machine -/

inductive Expects where
  | operand
  | operator
  deriving DecidableEq, Repr

/-- A parser in the middle of a query. -/
structure Parser where
  limit : Int
  /-- The innermost open group, or the query itself. -/
  group : Group := {}
  /-- The groups around it, from the inside out. -/
  enclosing : List Group := []
  expects : Expects := .operand
  /-- The conjunction of what was read before the parser last started anew. -/
  finished : Option Expr := none
  keywords : Array String := #[]
  filters : Array Filter := #[]
  events : Array Event := #[]
  /-- Whether the nesting has been warned of. -/
  warned : Bool := false

namespace Parser

/-- A parser at the start of a query. A limit beyond the ceiling is lowered to it, with a warning. -/
def start (maxDepth : Int) : Parser :=
  if maxDepth > maxDepthCeiling then
    { limit := maxDepthCeiling, events := #[.depthCapped maxDepth maxDepthCeiling] }
  else
    { limit := maxDepth }

/-- How deep the parser is in groups and negations. -/
def depth (p : Parser) : Nat :=
  p.group.negations + Group.nesting p.enclosing

def addOperand (p : Parser) (operand : Option Expr) : Parser :=
  { p with group := p.group.addOperand operand, expects := .operator }

/-- Adds a keyword, which is an absent operand. -/
def addKeyword (p : Parser) (text : String) : Parser :=
  { p with keywords := p.keywords.push text }.addOperand none

/-- Adds a field term: its filter as an operand, or the term as a keyword. -/
def addField (p : Parser) (name value raw : String) : Parser :=
  let resolved := resolve name value
  let p := { p with events := p.events ++ resolved.events }
  match resolved.value with
  | some filter => { p with filters := p.filters.push filter }.addOperand (some (.leaf filter))
  | none => p.addKeyword raw

/-- Warns of the nesting, unless that was done before. -/
def warnNesting (p : Parser) : Parser :=
  if p.warned then p
  else { p with events := p.events.push (.nestingIgnored p.limit), warned := true }

def negate (p : Parser) : Parser :=
  if p.depth < p.limit then
    { p with
      group := { p.group with negations := p.group.negations + 1 }
      expects := .operand }
  else
    { p.warnNesting with expects := .operand }

def openGroup (p : Parser) : Parser :=
  if p.depth < p.limit then
    { p with group := {}, enclosing := p.group :: p.enclosing, expects := .operand }
  else
    p.warnNesting.addOperand none

/-- Takes a token as an operand or the start of one. -/
def stepOperand (p : Parser) : Token → Parser
  | .field name value raw => p.addField name value raw
  | .keyword text => p.addKeyword text
  | .quoted text => p.addKeyword ("\"" ++ text ++ "\"")
  | .not => p.negate
  | .lparen => p.openGroup
  | .and | .or | .rparen => p.addOperand none

/-- The value of the query, with every open group closed. -/
def value (p : Parser) : Option Expr :=
  p.enclosing.foldl (fun inner group => (group.addOperand inner).value) p.group.value

/-- Closes all groups and starts anew. -/
def restart (p : Parser) : Parser :=
  { p with
    group := {}
    enclosing := []
    expects := .operand
    finished := Option.merge .and p.finished p.value }

/-- Takes a closing parenthesis after an operand. -/
def closeGroup (p : Parser) : Parser :=
  match p.enclosing with
  | [] => p.restart.addOperand none
  | outer :: enclosing =>
    { p with group := outer, enclosing := enclosing }.addOperand p.group.value

def stepOperator (p : Parser) : Token → Parser
  | .and => { p with expects := .operand }
  | .or => { p with group := p.group.nextAlternative, expects := .operand }
  | .rparen => p.closeGroup
  | .keyword text => p.restart.stepOperand (.keyword text)
  | .quoted text => p.restart.stepOperand (.quoted text)
  | .field name value raw => p.stepOperand (.field name value raw)
  | .not => p.stepOperand .not
  | .lparen => p.stepOperand .lparen

def step (p : Parser) (token : Token) : Parser :=
  match p.expects with
  | .operand => p.stepOperand token
  | .operator => p.stepOperator token

def feed (p : Parser) (tokens : List Token) : Parser :=
  tokens.foldl step p

@[simp] theorem feed_nil (p : Parser) : p.feed [] = p := rfl

@[simp] theorem feed_cons (p : Parser) (token : Token) (tokens : List Token) :
    p.feed (token :: tokens) = (p.step token).feed tokens := rfl

@[simp] theorem feed_append (p : Parser) (before after : List Token) :
    p.feed (before ++ after) = (p.feed before).feed after := by
  simp [feed]

def parsed (p : Parser) : Parsed where
  keywords := " ".intercalate p.keywords.toList
  filters := p.filters.toList
  expression := Option.merge .and p.finished p.value

/-- Hands over the query read so far. What was collected stays with the parser; the expression does
not, so a second harvest has none unless further tokens came in. -/
def harvest (p : Parser) : Parsed × Parser :=
  (p.parsed, { p.restart with finished := none })

/-- Asks for the query a number of times. The tokens are taken when it is first asked for; after that
none are left. -/
def answers (p : Parser) (tokens : List Token) : Nat → List Parsed × Parser
  | 0 => ([], p)
  | n + 1 =>
    let (first, p) := (p.feed tokens).harvest
    let (others, p) := p.answers [] n
    (first :: others, p)

end Parser

/-! ### Parsing -/

/-- The query that a list of tokens makes. -/
def parseTokens (maxDepth : Int) (tokens : List Token) : Logged Parsed :=
  let p := (Parser.start maxDepth).feed tokens
  ⟨p.parsed, p.events.toList⟩

/-- The results of asking one parser for its query a number of times. A parser that is never asked
takes no token and so has nothing to report but its own limit. -/
def parseRepeatedly (maxDepth : Int) (tokens : List Token) (times : Nat) : Logged (List Parsed) :=
  let (results, p) := (Parser.start maxDepth).answers tokens times
  ⟨results, p.events.toList⟩

/-- Parses the text of a query. A blank text is the empty query. -/
def parse (text : String) (maxDepth : Int := defaultMaxDepth) : Logged Parsed :=
  if Text.isBlankText text then pure {} else parseTokens maxDepth (tokenize text)

end MailSearch.Query
