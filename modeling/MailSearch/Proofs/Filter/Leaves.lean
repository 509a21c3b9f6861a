import MailSearch.Filter.Expr

/-!
# The leaves of an expression

The walk with a stack reads the leaves of an expression from left to right, as the structural
traversal does (`Expr.leaves_eq_inorder`). An expression has a leaf, so an expression that may be
absent is told by its leaves whether it is there (`Expr.leavesOf_eq_nil_iff`), and the leaves of a
combination are those of its sides whichever connective joins them.
-/

namespace MailSearch.Expr

/-- The walk takes the trees of its stack one after the other, the top first. -/
theorem walk_eq_flatMap (stack : List Expr) : walk stack = stack.flatMap inorder := by
  fun_induction walk stack with
  | case1 => rfl
  | case2 filter stack ih => rw [ih]; rfl
  | case3 operand stack ih => rw [ih]; rfl
  | case4 left right stack ih => simp [ih, inorder]
  | case5 left right stack ih => simp [ih, inorder]

theorem leaves_eq_inorder (e : Expr) : e.leaves = e.inorder := by
  rw [leaves, walk_eq_flatMap]
  simp

theorem inorder_ne_nil (e : Expr) : e.inorder ≠ [] := by
  induction e with
  | leaf filter => simp [inorder]
  | and left right ihl ihr => simp [inorder, ihl]
  | or left right ihl ihr => simp [inorder, ihl]
  | not operand ih => exact ih

@[simp] theorem inorder_negate (n : Nat) (e : Expr) : (negate n e).inorder = e.inorder := by
  induction n with
  | zero => rfl
  | succ n ih => rw [negate, inorder, ih]

/-! ### Expressions that may be absent -/

/-- The leaves of an expression that may be absent; nothing has no leaves. -/
def leavesOf (e : Option Expr) : List Filter :=
  e.elim [] inorder

@[simp] theorem leavesOf_none : leavesOf none = [] := rfl

@[simp] theorem leavesOf_some (e : Expr) : leavesOf (some e) = e.inorder := rfl

theorem leavesOf_eq_nil_iff {e : Option Expr} : leavesOf e = [] ↔ e = none := by
  cases e with
  | none => simp
  | some e => simp [inorder_ne_nil]

@[simp] theorem leavesOf_merge_and (left right : Option Expr) :
    leavesOf (Option.merge and left right) = leavesOf left ++ leavesOf right := by
  cases left <;> cases right <;> simp [inorder]

@[simp] theorem leavesOf_merge_or (left right : Option Expr) :
    leavesOf (Option.merge or left right) = leavesOf left ++ leavesOf right := by
  cases left <;> cases right <;> simp [inorder]

@[simp] theorem leavesOf_map_negate (n : Nat) (e : Option Expr) :
    leavesOf (e.map (negate n)) = leavesOf e := by
  cases e <;> simp

end MailSearch.Expr
