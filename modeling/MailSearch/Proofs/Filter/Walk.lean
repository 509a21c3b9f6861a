import Mathlib.Logic.Function.Iterate
import MailSearch.Proofs.Filter.Leaves

/-!
# The walk turn by turn

`Expr.walk` reads the filters of a stack of expressions. Here it is taken apart into its turns: a turn
takes the expression on top off the stack, reads it if it is a filter, and puts its parts back if it is
not, the left one on top (`Walk.turn`).

Every turn takes one node off the stack for good, so a walk ends after as many turns as there are nodes
on its stack (`Walk.stack_iterate_turn_eq_nil_iff`). No turn changes what has been read together with
what there is to read yet (`Walk.read_append_walk_turn`). So a walk that is stopped early has read a
beginning, and what it has read at its end are the expressions from the top of the stack down, each of
them in order (`Walk.iterate_turn_inorder`).
-/

namespace MailSearch.Expr

theorem size_pos (e : Expr) : 0 < e.size := by
  cases e <;> simp only [size] <;> omega

theorem stackSize_eq_zero_iff {stack : List Expr} : stackSize stack = 0 ↔ stack = [] := by
  cases stack with
  | nil => simp [stackSize]
  | cons e stack =>
    have hpos := e.size_pos
    simp only [stackSize, reduceCtorEq, iff_false]
    omega

/-- A walk between two of its turns: the expressions on its stack, the top first, and the filters it has
read so far. -/
structure Walk where
  stack : List Expr
  read : List Filter
  deriving DecidableEq, Repr

namespace Walk

/-- The walk over a stack, before its first turn. -/
def start (stack : List Expr) : Walk :=
  ⟨stack, []⟩

/-- One turn. With nothing on the stack the walk has ended. -/
def turn : Walk → Walk
  | ⟨[], read⟩ => ⟨[], read⟩
  | ⟨leaf filter :: stack, read⟩ => ⟨stack, read ++ [filter]⟩
  | ⟨not operand :: stack, read⟩ => ⟨operand :: stack, read⟩
  | ⟨and left right :: stack, read⟩ => ⟨left :: right :: stack, read⟩
  | ⟨or left right :: stack, read⟩ => ⟨left :: right :: stack, read⟩

/-! ### What a turn does -/

/-- A turn takes a node off the stack. -/
theorem stackSize_turn (w : Walk) : stackSize w.turn.stack = stackSize w.stack - 1 := by
  fun_cases turn w with
  | case1 read => rfl
  | case2 filter stack read => simp only [stackSize, size]; omega
  | case3 operand stack read => simp only [stackSize, size]; omega
  | case4 left right stack read => simp only [stackSize, size]; omega
  | case5 left right stack read => simp only [stackSize, size]; omega

/-- What a turn reads is the first of what there is to read. -/
theorem read_append_walk_turn (w : Walk) : w.turn.read ++ walk w.turn.stack = w.read ++ walk w.stack := by
  fun_cases turn w with
  | case1 read => rfl
  | case2 filter stack read => rw [walk, List.append_assoc, List.singleton_append]
  | case3 operand stack read => rw [walk]
  | case4 left right stack read => rw [walk]
  | case5 left right stack read => rw [walk]

/-! ### What a number of turns do -/

theorem stackSize_iterate_turn (turns : Nat) (w : Walk) :
    stackSize (turn^[turns] w).stack = stackSize w.stack - turns := by
  induction turns generalizing w with
  | zero => rfl
  | succ turns ih =>
    rw [Function.iterate_succ_apply, ih, stackSize_turn]
    omega

theorem read_append_walk_iterate_turn (turns : Nat) (w : Walk) :
    (turn^[turns] w).read ++ walk (turn^[turns] w).stack = w.read ++ walk w.stack := by
  induction turns generalizing w with
  | zero => rfl
  | succ turns ih => rw [Function.iterate_succ_apply, ih, read_append_walk_turn]

/-- A walk takes as many turns as there are nodes on its stack. -/
theorem stack_iterate_turn_eq_nil_iff {turns : Nat} {w : Walk} :
    (turn^[turns] w).stack = [] ↔ stackSize w.stack ≤ turns := by
  rw [← stackSize_eq_zero_iff, stackSize_iterate_turn]
  omega

/-- **A walk ends, and reads the expressions of its stack from the top down, each from left to right.**
It ends with the turn that takes the last node off the stack. Until then what it has read is a beginning
of what it reads in all, and the rest is what a walk over the stack it has come to reads. -/
theorem iterate_turn_inorder (stack : List Expr) :
    (∀ turns, (turn^[turns] (start stack)).stack = [] ↔ stackSize stack ≤ turns) ∧
      (∀ turns, (turn^[turns] (start stack)).read ++ walk (turn^[turns] (start stack)).stack
        = walk stack) ∧
      walk stack = stack.flatMap inorder ∧ ∀ e : Expr, e.leaves = e.inorder := by
  refine ⟨fun turns => ?_, fun turns => ?_, walk_eq_flatMap stack, leaves_eq_inorder⟩
  · exact stack_iterate_turn_eq_nil_iff
  · exact read_append_walk_iterate_turn turns (start stack)

example (a b : Filter) :
    turn^[3] (start [and (not (leaf a)) (leaf b)]) = ⟨[leaf b], [a]⟩ := rfl

end Walk

end MailSearch.Expr
