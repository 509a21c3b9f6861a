import MailSearch.Proofs.Filter.Leaves
import MailSearch.Query.Parser

/-!
# The filters of a query are the leaves of its expression

The machine keeps the filters of a query in a list of their own while it builds the expression in
parts: in the groups that are open, and in what it finished before it last started anew. Read from
the outside in, the parts have the listed filters as their leaves, in that order (`Parser.Lists`).
Every step keeps that, whatever it drops, and putting the parts together at the end keeps it too
(`parseTokens_leaves`).
-/

namespace MailSearch.Query

open MailSearch.Expr

namespace Group

/-- The leaves of what has been read of a group. -/
def leaves (group : Group) : List Filter :=
  leavesOf group.disjunction ++ leavesOf group.conjunction

/-- The leaves of the groups around a place, the outermost first. -/
def leavesAround : List Group → List Filter
  | [] => []
  | group :: enclosing => leavesAround enclosing ++ group.leaves

theorem leavesOf_value (group : Group) : leavesOf group.value = group.leaves := by
  rw [value, leavesOf_merge_or, leaves]

/-- An operand comes after all that has been read. The negations that wait for it add no leaf. -/
theorem leaves_addOperand (group : Group) (operand : Option Expr) :
    (group.addOperand operand).leaves = group.leaves ++ leavesOf operand := by
  simp [leaves, addOperand]

theorem leaves_nextAlternative (group : Group) : group.nextAlternative.leaves = group.leaves := by
  simp [leaves, nextAlternative, value]

end Group

namespace Parser

/-- The leaves of all that has been read and is in no list: what was finished, then the groups from
the outside in. -/
def leaves (p : Parser) : List Filter :=
  leavesOf p.finished ++ Group.leavesAround p.enclosing ++ p.group.leaves

/-- The filters in the list are the leaves of all that has been read. -/
def Lists (p : Parser) : Prop :=
  p.filters.toList = p.leaves

/-- Closing groups one after the other appends the innermost one to those around it. -/
theorem leavesOf_foldl_addOperand (enclosing : List Group) (inner : Option Expr) :
    leavesOf (enclosing.foldl (fun inner group => (group.addOperand inner).value) inner)
      = Group.leavesAround enclosing ++ leavesOf inner := by
  induction enclosing generalizing inner with
  | nil => rfl
  | cons group enclosing ih =>
    rw [List.foldl_cons, ih, Group.leavesOf_value, Group.leaves_addOperand, Group.leavesAround,
      List.append_assoc]

theorem leavesOf_value (p : Parser) :
    leavesOf p.value = Group.leavesAround p.enclosing ++ p.group.leaves := by
  rw [value, leavesOf_foldl_addOperand, Group.leavesOf_value]

/-! ### Step by step -/

theorem Lists.start (maxDepth : Int) : (start maxDepth).Lists := by
  unfold Parser.start
  split <;> rfl

variable {p q : Parser}

/-- A step that adds no filter keeps the list right if it keeps the leaves. -/
theorem Lists.of_eq (h : p.Lists) (hfilters : q.filters = p.filters)
    (hleaves : q.leaves = p.leaves) : q.Lists := by
  rw [Lists, hfilters, hleaves]
  exact h

theorem leaves_addOperand (p : Parser) (operand : Option Expr) :
    (p.addOperand operand).leaves = p.leaves ++ leavesOf operand := by
  simp only [leaves, addOperand, Group.leaves_addOperand, List.append_assoc]

theorem Lists.addOperand_none (h : p.Lists) : (p.addOperand none).Lists := by
  refine h.of_eq rfl ?_
  rw [leaves_addOperand, leavesOf_none, List.append_nil]

theorem Lists.addKeyword (h : p.Lists) (text : String) : (p.addKeyword text).Lists :=
  h.addOperand_none

/-- A filter is listed as it becomes a leaf. -/
theorem Lists.addField (h : p.Lists) (name value raw : String) :
    (p.addField name value raw).Lists := by
  simp only [Parser.addField]
  cases (resolve name value).value with
  | none => exact h.addOperand_none
  | some filter =>
    simp only [Lists, leaves_addOperand, leavesOf_some, inorder]
    show (p.filters.push filter).toList = p.leaves ++ [filter]
    rw [Array.toList_push, h]

theorem Lists.restart (h : p.Lists) : p.restart.Lists := by
  refine h.of_eq rfl ?_
  -- the groups have no leaves any more, and what is finished has theirs
  have hfinished : p.restart.leaves = leavesOf (Option.merge and p.finished p.value) := by
    simp [leaves, Parser.restart, Group.leaves, Group.leavesAround]
  rw [hfinished, leavesOf_merge_and, leavesOf_value, leaves, List.append_assoc]

theorem Lists.warnNesting (h : p.Lists) : p.warnNesting.Lists := by
  unfold Parser.warnNesting
  split
  · exact h
  · exact h

theorem Lists.negate (h : p.Lists) : p.negate.Lists := by
  unfold Parser.negate
  split
  · exact h
  · exact h.warnNesting

theorem Lists.openGroup (h : p.Lists) : p.openGroup.Lists := by
  unfold Parser.openGroup
  split
  · refine h.of_eq rfl ?_
    simp [leaves, Group.leavesAround, Group.leaves]
  · exact h.warnNesting.addOperand_none

theorem Lists.closeGroup (h : p.Lists) : p.closeGroup.Lists := by
  unfold Parser.closeGroup
  cases henclosing : p.enclosing with
  | nil => exact h.restart.addOperand_none
  | cons outer enclosing =>
    refine h.of_eq rfl ?_
    -- the leaves of the group move into the group around it, behind those that are there
    rw [leaves_addOperand, Group.leavesOf_value]
    simp only [leaves, henclosing, Group.leavesAround, List.append_assoc]

theorem Lists.nextAlternative (h : p.Lists) :
    ({ p with group := p.group.nextAlternative, expects := .operand } : Parser).Lists := by
  refine h.of_eq rfl ?_
  simp only [leaves, Group.leaves_nextAlternative]

theorem Lists.stepOperand (h : p.Lists) (token : Token) : (p.stepOperand token).Lists := by
  cases token with
  | field name value raw => exact h.addField name value raw
  | keyword text => exact h.addKeyword text
  | quoted text => exact h.addKeyword _
  | and | or | rparen => exact h.addOperand_none
  | not => exact h.negate
  | lparen => exact h.openGroup

/-- **A step keeps the list right**, also where it drops a token. -/
theorem Lists.step (h : p.Lists) (token : Token) : (p.step token).Lists := by
  unfold Parser.step
  cases p.expects with
  | operand => exact h.stepOperand token
  | operator =>
    cases token with
    | and => exact h
    | or => exact h.nextAlternative
    | rparen => exact h.closeGroup
    | keyword text => exact h.restart.stepOperand (.keyword text)
    | quoted text => exact h.restart.stepOperand (.quoted text)
    | field name value raw => exact h.stepOperand (.field name value raw)
    | not => exact h.stepOperand .not
    | lparen => exact h.stepOperand .lparen

/-- **A run keeps the list right.** Induction on the tokens. -/
theorem Lists.feed (h : p.Lists) (tokens : List Token) : (p.feed tokens).Lists := by
  induction tokens generalizing p with
  | nil => exact h
  | cons token tokens ih => exact ih (h.step token)

theorem Lists.leavesOf_parsed (h : p.Lists) :
    leavesOf p.parsed.expression = p.parsed.filters := by
  show leavesOf (Option.merge and p.finished p.value) = p.filters.toList
  rw [h, leavesOf_merge_and, leavesOf_value, leaves, List.append_assoc]

end Parser

/-- The leaves of the expression of a query, none if it has none, are its filters. -/
theorem leavesOf_parseTokens (maxDepth : Int) (tokens : List Token) :
    leavesOf (parseTokens maxDepth tokens).value.expression
      = (parseTokens maxDepth tokens).value.filters :=
  ((Parser.Lists.start maxDepth).feed tokens).leavesOf_parsed

/-- **The expression of a query has the filters of the query as its leaves**, each as often and in
the order in which the list has them, for every list of tokens and every limit on the nesting. There
is no expression exactly if there is no filter. -/
theorem parseTokens_leaves (maxDepth : Int) (tokens : List Token) :
    let parsed := (parseTokens maxDepth tokens).value
    (parsed.expression = none ↔ parsed.filters = []) ∧
      ∀ e, parsed.expression = some e → e.leaves = parsed.filters := by
  intro parsed
  have hleaves : leavesOf parsed.expression = parsed.filters := leavesOf_parseTokens maxDepth tokens
  constructor
  · rw [← hleaves, leavesOf_eq_nil_iff]
  · intro e he
    rw [leaves_eq_inorder, ← hleaves, he, leavesOf_some]

end MailSearch.Query
