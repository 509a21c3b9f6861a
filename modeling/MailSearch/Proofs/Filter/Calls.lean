import MailSearch.Proofs.Filter.Document
import MailSearch.Proofs.Filter.Height

/-!
# How far the printers recurse

Printing an expression as a filter string or as a document takes calls within calls.
`Expr.renderWithin` and `Expr.toJsonWithin` are the two printers with a limit on these: past it there is
no result. So the limits with which there is one are how far the printer recurses.

For a document it is the height of the expression (`Expr.toJsonWithin_eq`). A filter string takes fewer
calls, as a run of negations is printed by one call: a call within a call is only made where the kind of
node changes, and for what stands on the right (`Expr.callDepth`). With so many calls and with no fewer
the printer gives the filter string that is printed node by node
(`Expr.renderWithin_eq_renderNodewise`).
-/

namespace MailSearch.Expr

/-! ### Printing with a limit -/

/-- Prints a filter string with so many nested calls at most, or not at all. -/
def renderWithin : Nat → Expr → Option String
  | 0, _ => none
  | _ + 1, leaf filter => some filter.render
  | calls + 1, not operand =>
    (renderWithin calls operand.negated).map fun inner =>
      repeated (operand.negations + 1) "NOT (" ++ inner ++ repeated (operand.negations + 1) ")"
  | calls + 1, and left right =>
    ((operands .and (and left right)).mapM (renderWithin calls)).map (" AND ".intercalate ·)
  | calls + 1, or left right =>
    ((operands .or (or left right)).mapM (renderWithin calls)).map renderOr

/-- Prints a document with so many nested calls at most, or not at all. -/
def toJsonWithin : Nat → Expr → Option Json
  | 0, _ => none
  | _ + 1, leaf filter => some (.obj [("type", .str "filter"), ("filter", filter.toJson)])
  | calls + 1, not operand =>
    (toJsonWithin calls operand).map fun inner => .obj [("type", .str "not"), ("operand", inner)]
  | calls + 1, and left right =>
    ((operands .and (and left right)).mapM (toJsonWithin calls)).map fun inner =>
      .obj [("type", .str "and"), ("operands", .arr inner)]
  | calls + 1, or left right =>
    ((operands .or (or left right)).mapM (toJsonWithin calls)).map fun inner =>
      .obj [("type", .str "or"), ("operands", .arr inner)]

/-- Calls for the elements of a list, of which some may fail: all succeed or there is no list. -/
theorem mapM_eq_ite {α β : Type} {f : α → Option β} {g : α → β} {p : α → Prop} [DecidablePred p]
    {xs : List α} (h : ∀ x ∈ xs, f x = if p x then some (g x) else none) :
    xs.mapM f = if ∀ x ∈ xs, p x then some (xs.map g) else none := by
  induction xs with
  | nil => rfl
  | cons x xs ih =>
    have hfirst := h x List.mem_cons_self
    have hrest := ih fun y hy => h y (List.mem_cons_of_mem x hy)
    rw [List.mapM_cons, hfirst, hrest]
    by_cases hx : p x
    · by_cases hxs : ∀ y ∈ xs, p y
      · rw [if_pos hx, if_pos hxs, if_pos (List.forall_mem_cons.2 ⟨hx, hxs⟩)]
        rfl
      · rw [if_pos hx, if_neg hxs, if_neg fun hall => hxs (List.forall_mem_cons.1 hall).2]
        rfl
    · rw [if_neg hx, if_neg fun hall => hx (List.forall_mem_cons.1 hall).1]
      rfl

/-! ### Documents -/

/-- **The height of an expression is the number of nested calls that its document takes.** Induction
on the number of calls. -/
theorem toJsonWithin_eq (calls : Nat) (e : Expr) :
    toJsonWithin calls e = if e.height ≤ calls then some e.toJson else none := by
  induction calls generalizing e with
  | zero =>
    have hpos := e.height_pos
    rw [if_neg (by omega)]
    rfl
  | succ calls ih =>
    have hoperands (connective : Connective) (left right : Expr) :
        (operands connective (join connective left right)).mapM (toJsonWithin calls)
          = if (join connective left right).height ≤ calls + 1 then
              some ((operands connective (join connective left right)).map toJson) else none := by
      rw [mapM_eq_ite fun operand _ => ih operand]
      simp only [height_join_le_iff, ChainWithin]
    cases e with
    | leaf filter => rw [toJsonWithin, toJson_leaf, height_leaf, if_pos (by omega)]
    | not operand =>
      rw [toJsonWithin, ih, toJson_not, height_not]
      by_cases hheight : operand.height ≤ calls
      · rw [if_pos hheight, if_pos (by omega)]
        rfl
      · rw [if_neg hheight, if_neg (by omega)]
        rfl
    | and left right =>
      have hchain := hoperands .and left right
      rw [join] at hchain
      rw [toJsonWithin, toJson_and, hchain]
      split <;> rfl
    | or left right =>
      have hchain := hoperands .or left right
      rw [join] at hchain
      rw [toJsonWithin, toJson_or, hchain]
      split <;> rfl

/-! ### Filter strings -/

/-- The number of nested calls that the filter string of an expression takes. A node that goes on with
the chain or with the run of negations it stands in takes no call of its own. -/
def callDepth : Expr → Nat
  | leaf _ => 1
  | not (not operand) => callDepth (not operand)
  | not operand => callDepth operand + 1
  | and (and first second) right => max (callDepth (and first second)) (callDepth right + 1)
  | and left right => max (callDepth left) (callDepth right) + 1
  | or (or first second) right => max (callDepth (or first second)) (callDepth right + 1)
  | or left right => max (callDepth left) (callDepth right) + 1

theorem callDepth_leaf (filter : Filter) : callDepth (leaf filter) = 1 := rfl

/-- A run of negations takes one call, and within it those of what the run ends in. -/
theorem callDepth_not (operand : Expr) : callDepth (not operand) = operand.negated.callDepth + 1 := by
  induction operand with
  | not operand ih => exact ih
  | leaf | and | or => rfl

theorem callDepth_join_join (connective : Connective) (first second right : Expr) :
    callDepth (join connective (join connective first second) right)
      = max (callDepth (join connective first second)) (right.callDepth + 1) := by
  cases connective <;> rfl

theorem callDepth_join_of_ne {connective : Connective} {left : Expr}
    (h : ∀ first second, left ≠ join connective first second) (right : Expr) :
    callDepth (join connective left right) = max left.callDepth right.callDepth + 1 := by
  cases connective with
  | and =>
    cases left with
    | and first second => exact absurd rfl (h first second)
    | leaf | or | not => rfl
  | or =>
    cases left with
    | or first second => exact absurd rfl (h first second)
    | leaf | and | not => rfl

/-- A chain takes one call, and within it those of its operands. Induction along its left spine. -/
theorem callDepth_join_le_iff {connective : Connective} {left right : Expr} {n : Nat} :
    (join connective left right).callDepth ≤ n + 1 ↔
      ∀ operand ∈ operands connective (join connective left right), operand.callDepth ≤ n := by
  induction left using spine_induction connective generalizing right with
  | single left hoperands hsingle =>
    rw [callDepth_join_of_ne hsingle, operands_join, hoperands, List.forall_mem_append,
      List.forall_mem_singleton, List.forall_mem_singleton]
    omega
  | join first second ih =>
    rw [callDepth_join_join, operands_join, List.forall_mem_append, ← ih, List.forall_mem_singleton]
    omega

theorem callDepth_pos (e : Expr) : 0 < e.callDepth := by
  fun_induction callDepth e <;> omega

/-- **The filter string of an expression takes so many nested calls as the expression's call depth.**
Induction on the number of calls. -/
theorem renderWithin_eq_ite (calls : Nat) (e : Expr) :
    renderWithin calls e = if e.callDepth ≤ calls then some e.render else none := by
  induction calls generalizing e with
  | zero =>
    have hpos := e.callDepth_pos
    rw [if_neg (by omega)]
    rfl
  | succ calls ih =>
    have hoperands (connective : Connective) (left right : Expr) :
        (operands connective (join connective left right)).mapM (renderWithin calls)
          = if (join connective left right).callDepth ≤ calls + 1 then
              some ((operands connective (join connective left right)).map render) else none := by
      rw [mapM_eq_ite fun operand _ => ih operand]
      simp only [callDepth_join_le_iff]
    cases e with
    | leaf filter => rw [renderWithin, render_leaf, callDepth_leaf, if_pos (by omega)]
    | not operand =>
      rw [renderWithin, ih, render_not, callDepth_not]
      by_cases hdepth : operand.negated.callDepth ≤ calls
      · rw [if_pos hdepth, if_pos (by omega)]
        rfl
      · rw [if_neg hdepth, if_neg (by omega)]
        rfl
    | and left right =>
      have hchain := hoperands .and left right
      rw [join] at hchain
      rw [renderWithin, render_and, hchain]
      split <;> rfl
    | or left right =>
      have hchain := hoperands .or left right
      rw [join] at hchain
      rw [renderWithin, render_or, hchain]
      split <;> rfl

/-- A filter string takes no more calls than the expression is high. Induction on the height. -/
theorem callDepth_le_of_height_le {n : Nat} {e : Expr} (h : e.height ≤ n) : e.callDepth ≤ n := by
  induction n generalizing e with
  | zero =>
    have hpos := e.height_pos
    omega
  | succ n ih =>
    have hchain (connective : Connective) {left right : Expr}
        (h : (join connective left right).height ≤ n + 1) :
        (join connective left right).callDepth ≤ n + 1 :=
      callDepth_join_le_iff.2 fun operand hoperand => ih (height_join_le_iff.1 h operand hoperand)
    cases e with
    | leaf filter => exact Nat.le_add_left 1 n
    | not operand =>
      have hle := operand.height_negated_le
      rw [height_not] at h
      have hnegated : operand.negated.callDepth ≤ n := ih (by omega)
      rw [callDepth_not]
      omega
    | and left right => exact hchain .and h
    | or left right => exact hchain .or h

/-- The height of an expression is enough to print its filter string. -/
theorem renderWithin_eq {calls : Nat} {e : Expr} (h : e.height ≤ calls) :
    renderWithin calls e = some e.render := by
  rw [renderWithin_eq_ite, if_pos (callDepth_le_of_height_le h)]

/-- **A filter string is printed node by node.** The printer takes a chain of one connective and a run
of negations as a whole, and what it prints is what the plain recursion over the nodes prints. It comes
to an end for every expression: its calls within calls are as many as the expression's call depth. -/
theorem renderWithin_eq_renderNodewise (e : Expr) :
    e.render = e.renderNodewise ∧
      ∀ calls, e.renderWithin calls = if e.callDepth ≤ calls then some e.renderNodewise else none := by
  refine ⟨e.render_eq_renderNodewise, fun calls => ?_⟩
  rw [renderWithin_eq_ite, render_eq_renderNodewise]

-- one call for the run of negations, one for the chain, one for each of its operands
example (a b c : Filter) :
    callDepth (not (not (not (or (or (leaf a) (leaf b)) (leaf c))))) = 3 := rfl

end MailSearch.Expr
