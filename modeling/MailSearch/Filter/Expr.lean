import MailSearch.Filter.Basic

/-!
# Filter expressions

Filters joined by AND, OR and NOT. A query of any length gives a tree that leans to the left, so the
walks over a tree are arranged for long left spines: `walk` keeps its own stack, and `operands`
collects a whole chain of one connective at once.

Main definitions: `Expr`, `Expr.leaves`, `Expr.operands`, `Expr.inorder`. `leaves` is the walk with a
stack, `inorder` the structural traversal.
-/

namespace MailSearch

inductive Connective where
  | and
  | or
  deriving DecidableEq, Repr

/-- A boolean combination of filters. -/
inductive Expr where
  | leaf (filter : Filter)
  | and (left right : Expr)
  | or (left right : Expr)
  | not (operand : Expr)
  deriving DecidableEq, Repr

namespace Expr

def join : Connective → Expr → Expr → Expr
  | .and => and
  | .or => or

/-- An expression under a number of negations. -/
def negate : Nat → Expr → Expr
  | 0, e => e
  | n + 1, e => not (negate n e)

/-! ### Leaves -/

/-- The filters of an expression from left to right. -/
def inorder : Expr → List Filter
  | leaf filter => [filter]
  | and left right => left.inorder ++ right.inorder
  | or left right => left.inorder ++ right.inorder
  | not operand => operand.inorder

def size : Expr → Nat
  | leaf _ => 1
  | and left right => left.size + right.size + 1
  | or left right => left.size + right.size + 1
  | not operand => operand.size + 1

def stackSize : List Expr → Nat
  | [] => 0
  | e :: stack => e.size + stackSize stack

/-- The filters of a stack of expressions, the top first. A step takes the top off and puts its parts
back, so the nodes on the stack get fewer. -/
def walk : List Expr → List Filter
  | [] => []
  | leaf filter :: stack => filter :: walk stack
  | not operand :: stack => walk (operand :: stack)
  | and left right :: stack => walk (left :: right :: stack)
  | or left right :: stack => walk (left :: right :: stack)
  termination_by stack => stackSize stack
  decreasing_by all_goals simp only [stackSize, size]; omega

/-- The filters of an expression, in the order they are read in. -/
def leaves (e : Expr) : List Filter :=
  walk [e]

/-! ### Chains -/

/-- Puts the operands of a chain in front of a list: the right operands along the left spine of one
connective, and what the spine ends in. -/
def operandsOnto : Connective → Expr → List Expr → List Expr
  | .and, and left right, tail => operandsOnto .and left (right :: tail)
  | .or, or left right, tail => operandsOnto .or left (right :: tail)
  | _, e, tail => e :: tail

/-- The operands of the chain that an expression heads, in source order. -/
def operands (connective : Connective) (e : Expr) : List Expr :=
  operandsOnto connective e []

/-- Whatever a chain puts in front of a list is no larger than the chain. -/
theorem size_le_of_mem_operandsOnto {connective : Connective} {e x : Expr} {tail : List Expr}
    (h : x ∈ operandsOnto connective e tail) : x.size ≤ e.size ∨ x ∈ tail := by
  fun_induction operandsOnto connective e tail with
  | case1 left right tail ih =>
    rcases ih h with h | h
    · left; simp only [size]; omega
    · rcases List.mem_cons.1 h with rfl | h
      · left; simp only [size]; omega
      · exact Or.inr h
  | case2 left right tail ih =>
    rcases ih h with h | h
    · left; simp only [size]; omega
    · rcases List.mem_cons.1 h with rfl | h
      · left; simp only [size]; omega
      · exact Or.inr h
  | case3 connective e tail =>
    rcases List.mem_cons.1 h with rfl | h
    · exact Or.inl (Nat.le_refl _)
    · exact Or.inr h

theorem size_lt_of_mem_operands_and {left right x : Expr}
    (h : x ∈ operands .and (and left right)) : x.size < (and left right).size := by
  rw [operands, operandsOnto] at h
  rcases size_le_of_mem_operandsOnto h with h | h
  · simp only [size]; omega
  · rw [List.mem_singleton.1 h]; simp only [size]; omega

theorem size_lt_of_mem_operands_or {left right x : Expr}
    (h : x ∈ operands .or (or left right)) : x.size < (or left right).size := by
  rw [operands, operandsOnto] at h
  rcases size_le_of_mem_operandsOnto h with h | h
  · simp only [size]; omega
  · rw [List.mem_singleton.1 h]; simp only [size]; omega

/-! ### Negations -/

/-- The number of negations that an expression starts with. -/
def negations : Expr → Nat
  | not operand => operand.negations + 1
  | _ => 0

/-- What is under the negations that an expression starts with. -/
def negated : Expr → Expr
  | not operand => operand.negated
  | e => e

theorem size_negated_le (e : Expr) : e.negated.size ≤ e.size := by
  induction e with
  | not operand ih => simp only [negated, size]; omega
  | _ => simp [negated]

end Expr

end MailSearch
