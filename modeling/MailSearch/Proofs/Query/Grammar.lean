import MailSearch.Query.Parser

/-!
# Derivations of a query

The grammar of the query language as a type. A `Derivation s ts` derives the token list `ts` from
the nonterminal `s`, with one constructor for each production:

```text
disjunction := conjunction | disjunction "OR" conjunction
conjunction := negation | conjunction "AND" negation | conjunction negation
negation    := "NOT" negation | primary
primary     := "(" disjunction ")" | field | keyword | quoted
```

The repetitions of the grammar are written to the left, which is how its connectives associate. Two
functions read a derivation. `Derivation.denotation` is the expression that it stands for, and
`Derivation.depths` is how deep each NOT and each opening parenthesis lies. Neither of them mentions
the machine that parses queries.
-/

namespace MailSearch.Query

/-- The nonterminals of the query language, the loosest first. -/
inductive Nonterminal where
  | disjunction
  | conjunction
  | negation
  | primary
  deriving DecidableEq, Repr

/-- Whether tokens start in a way that lets the AND before them go unwritten: with a field term, a
NOT or an opening parenthesis. -/
def opensOperand : List Token → Bool
  | .field .. :: _ => true
  | .not :: _ => true
  | .lparen :: _ => true
  | _ => false

/-- A derivation of a list of tokens from a nonterminal. -/
inductive Derivation : Nonterminal → List Token → Type where
  | first {ts : List Token} (only : Derivation .conjunction ts) : Derivation .disjunction ts
  | or {ls rs : List Token} (left : Derivation .disjunction ls)
      (right : Derivation .conjunction rs) : Derivation .disjunction (ls ++ .or :: rs)
  | operand {ts : List Token} (only : Derivation .negation ts) : Derivation .conjunction ts
  | and {ls rs : List Token} (left : Derivation .conjunction ls) (right : Derivation .negation rs) :
      Derivation .conjunction (ls ++ .and :: rs)
  /-- The AND that is not written. -/
  | adjacent {ls rs : List Token} (left : Derivation .conjunction ls)
      (right : Derivation .negation rs) (opens : opensOperand rs = true) :
      Derivation .conjunction (ls ++ rs)
  | not {ts : List Token} (inner : Derivation .negation ts) : Derivation .negation (.not :: ts)
  | primary {ts : List Token} (only : Derivation .primary ts) : Derivation .negation ts
  | group {ts : List Token} (inner : Derivation .disjunction ts) :
      Derivation .primary (.lparen :: (ts ++ [.rparen]))
  | field (name value raw : String) : Derivation .primary [.field name value raw]
  | keyword (text : String) : Derivation .primary [.keyword text]
  | quoted (text : String) : Derivation .primary [.quoted text]

namespace Derivation

/-- The expression that a derivation stands for, if it stands for any. A field term stands for the
filter it resolves to; the words that are kept for the text search stand for nothing, and an absent
side leaves the other side of a connective as it is. -/
def denotation {s : Nonterminal} {ts : List Token} : Derivation s ts → Option Expr
  | first only => only.denotation
  | or left right => Option.merge .or left.denotation right.denotation
  | operand only => only.denotation
  | and left right => Option.merge .and left.denotation right.denotation
  | adjacent left right _ => Option.merge .and left.denotation right.denotation
  | not inner => inner.denotation.map .not
  | primary only => only.denotation
  | group inner => inner.denotation
  | field name value _ => (resolve name value).value.map .leaf
  | keyword _ => none
  | quoted _ => none

/-- The depths of the NOTs and the opening parentheses of a derivation, from left to right, where
`outer` levels lie around it. What stands under a NOT or in a group is one level deeper than the NOT
or the parenthesis is; an outermost one is one deep. -/
def depths {s : Nonterminal} {ts : List Token} (outer : Nat) : Derivation s ts → List Nat
  | first only => only.depths outer
  | or left right => left.depths outer ++ right.depths outer
  | operand only => only.depths outer
  | and left right => left.depths outer ++ right.depths outer
  | adjacent left right _ => left.depths outer ++ right.depths outer
  | not inner => (outer + 1) :: inner.depths (outer + 1)
  | primary only => only.depths outer
  | group inner => (outer + 1) :: inner.depths (outer + 1)
  | field .. => []
  | keyword _ => []
  | quoted _ => []

end Derivation

end MailSearch.Query
