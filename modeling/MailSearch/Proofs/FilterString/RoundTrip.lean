import MailSearch.Proofs.Filter.Rendering
import MailSearch.Proofs.FilterString.Condition

/-!
# Filter strings are read back

The filter string of an expression spells a chain of its own (`Expr.spelledBy_render`), so it is
well formed whatever the filters hold. That chain is a conjunction: every OR of the expression
stands in parentheses (`Expr.isConjunction_chain`). What it asks for is the expression with its ANDs
grouped to the left (`Expr.condition_append_chain`), since only the grouping of ANDs is not printed.
So the filter string determines the expression up to that grouping (`Expr.read?_render`).
-/

namespace MailSearch

open FilterString

namespace Filter

/-! ### Filters -/

/-- The value of a filter as a filter string has it. -/
def literal : Filter → Literal
  | text _ _ value => .text value
  | hasAttachments _ value => .bool value
  | timestamp _ value => .int value

/-- A filter as a filter string has it. -/
def comparison (filter : Filter) : Comparison where
  name := filter.field.name
  operator := filter.operator
  value := filter.literal

/-- The filter that makes a comparison, if the attribute exists and the value has its type. -/
def ofComparison? (comparison : Comparison) : Option Filter :=
  match Field.ofName? comparison.name, comparison.value with
  | some (.text field), .text value => some (.text field comparison.operator value)
  | some .hasAttachments, .bool value => some (.hasAttachments comparison.operator value)
  | some .timestamp, .int value => some (.timestamp comparison.operator value)
  | _, _ => none

theorem ofComparison?_comparison (filter : Filter) :
    ofComparison? filter.comparison = some filter := by
  rw [ofComparison?, comparison, Field.ofName?_name]
  cases filter <;> rfl

theorem lex_name (field : Field) : lex field.name = some [.attribute field.name] := by
  rcases field with field | _ | _
  · cases field <;> decide +kernel
  · decide +kernel
  · decide +kernel

theorem lex_symbol (operator : Operator) : lex operator.symbol = some [.symbol operator] := by
  cases operator <;> decide +kernel

theorem lex_renderValue (filter : Filter) :
    lex filter.renderValue = some [.literal filter.literal] := by
  cases filter with
  | text field operator value => exact lex_quote value
  | hasAttachments operator value => exact lex_bool value
  | timestamp operator value => exact lex_int value

/-- **A filter is printed as its comparison**, whatever value it compares with. -/
theorem lex_render (filter : Filter) : lex filter.render = some filter.comparison.lexemes :=
  lex_word (lex_word (lex_name filter.field) (lex_symbol filter.operator)) (lex_renderValue filter)

end Filter

namespace Expr

/-! ### The chain that is printed -/

/-- The chain that the filter string of an expression spells. -/
def chain : Expr → Chain
  | leaf filter => .single (.comparison filter.comparison)
  | and left right => left.chain.append .and right.chain
  | or left right => .single (.group (left.chain.append .or right.chain))
  | not operand => .single (.not (.group operand.chain))

/-- **What an expression is printed as is well formed.** Induction on the expression. -/
theorem spelledBy_render (e : Expr) : e.chain.SpelledBy e.render := by
  induction e with
  | leaf filter =>
    rw [render_leaf]
    exact filter.lex_render
  | and left right ihl ihr =>
    rw [render_and_eq]
    exact ihl.and ihr
  | or left right ihl ihr =>
    rw [render_or_eq]
    exact (ihl.or ihr).group
  | not operand ih =>
    rw [render_not_eq]
    exact ih.not

theorem isConjunction_chain (e : Expr) : e.chain.isConjunction = true := by
  induction e with
  | leaf filter => rfl
  | and left right ihl ihr => rw [chain, Chain.isConjunction_append_and, ihl, ihr]; rfl
  | or left right _ _ => rfl
  | not operand _ => rfl

/-! ### Grouping ANDs to the left -/

/-- Conjoins an expression with one whose ANDs are grouped to the left, and keeps them so. -/
def graft (left : Expr) : Expr → Expr
  | and middle right => and (graft left middle) right
  | e => and left e

/-- An expression with its ANDs grouped to the left. -/
def leftAssoc : Expr → Expr
  | leaf filter => leaf filter
  | and left right => graft left.leftAssoc right.leftAssoc
  | or left right => or left.leftAssoc right.leftAssoc
  | not operand => not operand.leftAssoc

theorem graft_assoc (a b c : Expr) : graft a (graft b c) = graft (graft a b) c := by
  induction c with
  | and middle right ih _ => simp only [graft, ih]
  | leaf filter => rfl
  | or left right _ _ => rfl
  | not operand _ => rfl

/-- Whether no AND has an AND as its right operand. -/
def IsLeftAssoc : Expr → Prop
  | leaf _ => True
  | and _ (and _ _) => False
  | and left right => left.IsLeftAssoc ∧ right.IsLeftAssoc
  | or left right => left.IsLeftAssoc ∧ right.IsLeftAssoc
  | not operand => operand.IsLeftAssoc

/-- Expressions that differ in the grouping of their ANDs only. -/
inductive AndEquiv : Expr → Expr → Prop where
  | refl (e : Expr) : AndEquiv e e
  | symm {e e' : Expr} (h : AndEquiv e e') : AndEquiv e' e
  | trans {e e' e'' : Expr} (h : AndEquiv e e') (h' : AndEquiv e' e'') : AndEquiv e e''
  | assoc (left middle right : Expr) :
      AndEquiv (and left (and middle right)) (and (and left middle) right)
  | and {left left' right right' : Expr} (hl : AndEquiv left left') (hr : AndEquiv right right') :
      AndEquiv (and left right) (and left' right')
  | or {left left' right right' : Expr} (hl : AndEquiv left left') (hr : AndEquiv right right') :
      AndEquiv (or left right) (or left' right')
  | not {operand operand' : Expr} (h : AndEquiv operand operand') :
      AndEquiv (not operand) (not operand')

theorem isLeftAssoc_graft {a b : Expr} (ha : a.IsLeftAssoc) (hb : b.IsLeftAssoc) :
    (graft a b).IsLeftAssoc := by
  induction b with
  | leaf filter => exact ⟨ha, hb⟩
  | or left right _ _ => exact ⟨ha, hb⟩
  | not operand _ => exact ⟨ha, hb⟩
  | and middle right ihm _ =>
    cases right with
    | and _ _ =>
      -- an AND to the right of an AND is what `hb` excludes
      exact hb.elim
    | leaf filter => exact ⟨ihm hb.1, hb.2⟩
    | or _ _ => exact ⟨ihm hb.1, hb.2⟩
    | not _ => exact ⟨ihm hb.1, hb.2⟩

theorem isLeftAssoc_leftAssoc (e : Expr) : e.leftAssoc.IsLeftAssoc := by
  induction e with
  | leaf filter => trivial
  | and left right ihl ihr => exact isLeftAssoc_graft ihl ihr
  | or left right ihl ihr => exact ⟨ihl, ihr⟩
  | not operand ih => exact ih

theorem andEquiv_graft (a b : Expr) : AndEquiv (and a b) (graft a b) := by
  induction b with
  | and middle right ih _ => exact (AndEquiv.assoc a middle right).trans (ih.and (.refl right))
  | leaf filter => exact .refl _
  | or left right _ _ => exact .refl _
  | not operand _ => exact .refl _

theorem andEquiv_leftAssoc (e : Expr) : AndEquiv e e.leftAssoc := by
  induction e with
  | leaf filter => exact .refl _
  | and left right ihl ihr => exact (ihl.and ihr).trans (andEquiv_graft _ _)
  | or left right ihl ihr => exact ihl.or ihr
  | not operand ih => exact ih.not

/-! ### What is read back -/

/-- An expression as a condition on a record. -/
def condition : Expr → Condition
  | leaf filter => .test filter.comparison
  | and left right => .and left.condition right.condition
  | or left right => .or left.condition right.condition
  | not operand => .not operand.condition

/-- The expression that a condition is, if its comparisons are filters. -/
def ofCondition? : Condition → Option Expr
  | .test comparison => (Filter.ofComparison? comparison).map leaf
  | .and left right => (ofCondition? left).bind fun l => (ofCondition? right).map (and l)
  | .or left right => (ofCondition? left).bind fun l => (ofCondition? right).map (or l)
  | .not operand => (ofCondition? operand).map not

theorem ofCondition?_condition (e : Expr) : ofCondition? e.condition = some e := by
  induction e with
  | leaf filter => rw [condition, ofCondition?, Filter.ofComparison?_comparison, Option.map_some]
  | and left right ihl ihr =>
    rw [condition, ofCondition?, ihl, Option.bind_some, ihr, Option.map_some]
  | or left right ihl ihr =>
    rw [condition, ofCondition?, ihl, Option.bind_some, ihr, Option.map_some]
  | not operand ih => rw [condition, ofCondition?, ih, Option.map_some]

/-- The expression that a whole filter string asks for. -/
def read? (text : String) : Option Expr :=
  (Condition.read? text).bind ofCondition?

/-- **What is printed asks for the expression with its ANDs grouped to the left**, also after an AND
with what has been read before. Induction on the expression, `a` being what has been read. -/
theorem condition_append_chain (e : Expr) :
    e.chain.condition = e.leftAssoc.condition ∧
      ∀ (a : Chain) (x : Expr), a.isConjunction = true → a.condition = x.condition →
        (a.append .and e.chain).condition = (graft x e.leftAssoc).condition := by
  induction e with
  | leaf filter =>
    refine ⟨rfl, fun a x ha hx => ?_⟩
    rw [chain, Chain.append, Chain.condition_join_and ha, hx]
    rfl
  | and left right ihl ihr =>
    refine ⟨ihr.2 left.chain left.leftAssoc left.isConjunction_chain ihl.1, fun a x ha hx => ?_⟩
    have hleft : (a.append .and left.chain).condition = (graft x left.leftAssoc).condition :=
      ihl.2 a x ha hx
    have hconjunction : (a.append .and left.chain).isConjunction = true := by
      rw [Chain.isConjunction_append_and, ha, left.isConjunction_chain]
      rfl
    -- the left side has been read by the time the right one is
    rw [chain, leftAssoc, ← Chain.append_assoc, graft_assoc]
    exact ihr.2 _ _ hconjunction hleft
  | or left right ihl ihr =>
    -- the parentheses keep the OR in one operand
    have hor : (Operand.group (left.chain.append .or right.chain)).condition
        = (or left.leftAssoc right.leftAssoc).condition := by
      show (left.chain.append .or right.chain).condition = _
      rw [Chain.condition_append_or left.chain right.isConjunction_chain, ihl.1, ihr.1]
      rfl
    refine ⟨hor, fun a x ha hx => ?_⟩
    rw [chain, Chain.append, Chain.condition_join_and ha, hx, hor]
    rfl
  | not operand ih =>
    have hnot : (Operand.not (.group operand.chain)).condition
        = (not operand.leftAssoc).condition := by
      show Condition.not operand.chain.condition = _
      rw [ih.1]
      rfl
    refine ⟨hnot, fun a x ha hx => ?_⟩
    rw [chain, Chain.append, Chain.condition_join_and ha, hx, hnot]
    rfl

/-- The condition that the filter string of an expression asks for. -/
theorem read?_condition_render (e : Expr) : Condition.read? e.render = some e.leftAssoc.condition :=
  Condition.read?_eq_some_iff.2 ⟨e.chain, e.spelledBy_render, e.condition_append_chain.1⟩

theorem read?_render_eq (e : Expr) : read? e.render = some e.leftAssoc := by
  rw [read?, read?_condition_render, Option.bind_some, ofCondition?_condition]

/-- Expressions that differ in the grouping of their ANDs only are printed alike. -/
theorem render_eq_of_andEquiv {e e' : Expr} (h : AndEquiv e e') : e.render = e'.render := by
  induction h with
  | refl e => rfl
  | symm _ ih => exact ih.symm
  | trans _ _ ih ih' => exact ih.trans ih'
  | assoc left middle right => simp only [render_and_eq, String.append_assoc]
  | and _ _ ihl ihr => rw [render_and_eq, render_and_eq, ihl, ihr]
  | or _ _ ihl ihr => rw [render_or_eq, render_or_eq, ihl, ihr]
  | not _ ih => rw [render_not_eq, render_not_eq, ih]

/-- An expression with each of its filters replaced. -/
def map (f : Filter → Filter) : Expr → Expr
  | leaf filter => leaf (f filter)
  | and left right => and (left.map f) (right.map f)
  | or left right => or (left.map f) (right.map f)
  | not operand => not (operand.map f)

theorem map_graft (f : Filter → Filter) (a b : Expr) :
    (graft a b).map f = graft (a.map f) (b.map f) := by
  induction b with
  | and middle right ih _ => simp only [graft, map, ih]
  | leaf filter => rfl
  | or left right _ _ => rfl
  | not operand _ => rfl

theorem leftAssoc_map (f : Filter → Filter) (e : Expr) :
    (e.map f).leftAssoc = e.leftAssoc.map f := by
  induction e with
  | leaf filter => rfl
  | and left right ihl ihr => rw [map, leftAssoc, leftAssoc, map_graft, ihl, ihr]
  | or left right ihl ihr => rw [map, leftAssoc, leftAssoc, map, ihl, ihr]
  | not operand ih => rw [map, leftAssoc, leftAssoc, map, ih]

/-- **Filter strings are read back.** The whole filter string of an expression is read as the
expression with its ANDs grouped to the left. So two expressions are printed alike exactly if they
differ in the grouping of their ANDs only, and whatever the filters are replaced by, values
included, the expression that is read changes in its filters only. -/
theorem read?_render (e : Expr) :
    (read? e.render = some e.leftAssoc ∧ AndEquiv e e.leftAssoc ∧ e.leftAssoc.IsLeftAssoc) ∧
      (∀ e' : Expr, e.render = e'.render ↔ AndEquiv e e') ∧
      ∀ f : Filter → Filter, read? (e.map f).render = some (e.leftAssoc.map f) := by
  refine ⟨⟨read?_render_eq e, andEquiv_leftAssoc e, isLeftAssoc_leftAssoc e⟩, fun e' => ⟨?_, ?_⟩,
    fun f => ?_⟩
  · intro hrender
    have hsame : e.leftAssoc = e'.leftAssoc := by
      have hread := read?_render_eq e
      rw [hrender, read?_render_eq e'] at hread
      exact (Option.some.inj hread).symm
    have hback : AndEquiv e.leftAssoc e' := hsame ▸ (andEquiv_leftAssoc e').symm
    exact (andEquiv_leftAssoc e).trans hback
  · exact render_eq_of_andEquiv
  · rw [read?_render_eq, leftAssoc_map]

end Expr

end MailSearch
