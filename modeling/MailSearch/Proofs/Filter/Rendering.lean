import MailSearch.Filter.Render

/-!
# Filter strings node by node

`Expr.render` prints a whole chain of one connective at once, and a whole run of negations. What it
prints for a node still depends only on what it prints for the node's children: an AND puts ` AND `
between them (`render_and_eq`), an OR does so with ` OR ` and adds parentheses (`render_or_eq`), and
a NOT wraps its operand (`render_not_eq`). So facts about filter strings can be proved by structural
induction. Taken together, the printer of chains and runs prints what the plain printer does, which
calls itself for every child (`renderNodewise`, `render_eq_renderNodewise`).
-/

namespace MailSearch.Expr

/-! ### Chains -/

/-- A chain goes in front of a list, whatever else comes after that list. -/
theorem operandsOnto_append (connective : Connective) (e : Expr) (xs ys : List Expr) :
    operandsOnto connective e (xs ++ ys) = operandsOnto connective e xs ++ ys := by
  fun_induction operandsOnto connective e xs with
  | case1 left right xs ih => exact ih
  | case2 left right xs ih => exact ih
  | case3 connective e xs hand hor => exact operandsOnto.eq_3 connective e (xs ++ ys) hand hor

/-- The right operand of a join is the last one of its chain. -/
theorem operands_join (connective : Connective) (left right : Expr) :
    operands connective (join connective left right) = operands connective left ++ [right] := by
  cases connective with
  | and => exact operandsOnto_append .and left [] [right]
  | or => exact operandsOnto_append .or left [] [right]

theorem operandsOnto_ne_nil (connective : Connective) (e : Expr) (tail : List Expr) :
    operandsOnto connective e tail ≠ [] := by
  fun_induction operandsOnto connective e tail with
  | case1 left right tail ih => exact ih
  | case2 left right tail ih => exact ih
  | case3 => exact List.cons_ne_nil _ _

theorem map_operands_ne_nil (connective : Connective) (e : Expr) :
    (operands connective e).map render ≠ [] :=
  fun h => operandsOnto_ne_nil connective e [] (List.map_eq_nil_iff.1 h)

/-- An expression that is no AND is a chain of ANDs by itself, and so on for OR: either way its
operands printed and joined are the expression printed. -/
theorem intercalate_operands (e : Expr) :
    " AND ".intercalate ((operands .and e).map render) = e.render := by
  cases e with
  | and left right => rw [render_and]
  | leaf filter => exact String.intercalate_singleton
  | or left right => exact String.intercalate_singleton
  | not operand => exact String.intercalate_singleton

theorem renderOr_operands (e : Expr) : renderOr ((operands .or e).map render) = e.render := by
  cases e with
  | or left right => rw [render_or]
  | leaf filter => rfl
  | and left right => rfl
  | not operand => rfl

/-- One more operand goes on the right, in parentheses of its own. -/
theorem renderOr_append {before : List String} (h : before ≠ []) (operand : String) :
    renderOr (before ++ [operand]) = joinOr (renderOr before) operand := by
  cases before with
  | nil => exact absurd rfl h
  | cons first rest => simp only [List.cons_append, renderOr, List.foldl_append, List.foldl_cons,
      List.foldl_nil]

/-! ### Negations -/

theorem repeated_succ (n : Nat) (text : String) :
    repeated (n + 1) text = text ++ repeated n text := by
  rw [repeated, List.replicate_succ, String.join_cons]
  rfl

theorem repeated_succ' (n : Nat) (text : String) :
    repeated (n + 1) text = repeated n text ++ text := by
  rw [repeated, List.replicate_succ', String.join_append, String.join_cons, String.join_nil,
    String.append_empty]
  rfl

/-- What an expression has under its negations is printed inside of them. -/
theorem repeated_negations (e : Expr) :
    repeated e.negations "NOT (" ++ render e.negated ++ repeated e.negations ")" = e.render := by
  cases e with
  | not operand => rw [render_not]; rfl
  | leaf filter => simp [negations, negated, repeated]
  | and left right => simp [negations, negated, repeated]
  | or left right => simp [negations, negated, repeated]

/-! ### Nodes -/

theorem render_and_eq (left right : Expr) :
    render (and left right) = left.render ++ " AND " ++ right.render := by
  have hoperands : operands .and (and left right) = operands .and left ++ [right] :=
    operands_join .and left right
  rw [render_and, hoperands, List.map_append, List.map_singleton,
    String.intercalate_append_of_ne_nil (map_operands_ne_nil .and left) (List.cons_ne_nil _ _),
    intercalate_operands, String.intercalate_singleton]

theorem render_or_eq (left right : Expr) :
    render (or left right) = "(" ++ (left.render ++ " OR " ++ right.render) ++ ")" := by
  have hoperands : operands .or (or left right) = operands .or left ++ [right] :=
    operands_join .or left right
  rw [render_or, hoperands, List.map_append, List.map_singleton,
    renderOr_append (map_operands_ne_nil .or left), renderOr_operands, joinOr]
  simp only [String.append_assoc]

theorem render_not_eq (operand : Expr) :
    render (not operand) = "NOT (" ++ operand.render ++ ")" := by
  rw [render_not, repeated_succ, repeated_succ', ← repeated_negations operand]
  simp only [String.append_assoc]

/-- An expression printed node by node. -/
def renderNodewise : Expr → String
  | leaf filter => filter.render
  | and left right => left.renderNodewise ++ " AND " ++ right.renderNodewise
  | or left right => "(" ++ (left.renderNodewise ++ " OR " ++ right.renderNodewise) ++ ")"
  | not operand => "NOT (" ++ operand.renderNodewise ++ ")"

theorem render_eq_renderNodewise (e : Expr) : e.render = e.renderNodewise := by
  induction e with
  | leaf filter => rw [render_leaf, renderNodewise]
  | and left right ihl ihr => rw [render_and_eq, renderNodewise, ihl, ihr]
  | or left right ihl ihr => rw [render_or_eq, renderNodewise, ihl, ihr]
  | not operand ih => rw [render_not_eq, renderNodewise, ih]

end MailSearch.Expr
