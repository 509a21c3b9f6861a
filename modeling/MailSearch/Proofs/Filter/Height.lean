import MailSearch.Proofs.Filter.Rendering

/-!
# How high an expression is

The height of an expression counts a chain of one connective as one level, however long the chain
is. It bounds how far the printers of filter strings and documents recurse.

Most of what is shown about heights speaks of chains: `Expr.ChainWithin` bounds the operands of the
chain that an expression heads. The height of the expression is then one level more at most, and
joining a further operand to the chain does not change that (`Expr.chainWithin_join`).
-/

namespace MailSearch

theorem foldr_max_le_iff {ns : List Nat} {n : Nat} : ns.foldr max 0 ≤ n ↔ ∀ m ∈ ns, m ≤ n := by
  induction ns with
  | nil => simp
  | cons m ns ih => rw [List.foldr_cons, Nat.max_le, ih, List.forall_mem_cons]

namespace Expr

/-- The number of levels of an expression. The operands of a chain stand one level below it. -/
def height (e : Expr) : Nat :=
  match e with
  | leaf _ => 1
  | not operand => 1 + height operand
  | and left right =>
    1 + ((operands .and (and left right)).attach.map fun x => height x.1).foldr max 0
  | or left right =>
    1 + ((operands .or (or left right)).attach.map fun x => height x.1).foldr max 0
  termination_by e.size
  decreasing_by
    · simp only [size]; omega
    · exact size_lt_of_mem_operands_and x.2
    · exact size_lt_of_mem_operands_or x.2

@[simp] theorem height_leaf (filter : Filter) : height (leaf filter) = 1 := by
  rw [height]

@[simp] theorem height_not (operand : Expr) : height (not operand) = 1 + operand.height := by
  rw [height]

theorem height_join (connective : Connective) (left right : Expr) :
    height (join connective left right)
      = 1 + ((operands connective (join connective left right)).map height).foldr max 0 := by
  cases connective with
  | and => rw [join, height, List.attach_map_val (f := height)]
  | or => rw [join, height, List.attach_map_val (f := height)]

@[simp] theorem height_negate (n : Nat) (e : Expr) : (negate n e).height = n + e.height := by
  induction n with
  | zero => rw [negate, Nat.zero_add]
  | succ n ih => rw [negate, height_not, ih]; omega

/-- What is under the negations of an expression is no higher. -/
theorem height_negated_le (e : Expr) : e.negated.height ≤ e.height := by
  induction e with
  | not operand ih => rw [negated, height_not]; omega
  | leaf | and | or => exact Nat.le_refl _

theorem height_pos (e : Expr) : 0 < e.height := by
  cases e with
  | leaf filter => rw [height_leaf]; omega
  | not operand => rw [height_not]; omega
  | and left right =>
    have hjoin := height_join .and left right
    simp only [join] at hjoin
    omega
  | or left right =>
    have hjoin := height_join .or left right
    simp only [join] at hjoin
    omega

/-! ### Chains -/

/-- The operands of the chain that an expression heads are `n` levels high at most. -/
def ChainWithin (connective : Connective) (n : Nat) (e : Expr) : Prop :=
  ∀ operand ∈ operands connective e, operand.height ≤ n

theorem height_join_le_iff {connective : Connective} {left right : Expr} {n : Nat} :
    (join connective left right).height ≤ n + 1 ↔
      (join connective left right).ChainWithin connective n := by
  have hlevels : ((operands connective (join connective left right)).map height).foldr max 0 ≤ n ↔
      (join connective left right).ChainWithin connective n := by
    rw [foldr_max_le_iff, List.forall_mem_map]
    rfl
  rw [height_join, ← hlevels]
  omega

/-- A chain goes on to the right by its last operand. -/
theorem chainWithin_join {connective : Connective} {left right : Expr} {n : Nat} :
    (join connective left right).ChainWithin connective n ↔
      left.ChainWithin connective n ∧ right.height ≤ n := by
  rw [ChainWithin, operands_join, List.forall_mem_append, List.forall_mem_singleton]
  rfl

/-- An expression heads a chain of several operands, or is the only operand itself. -/
theorem eq_join_or_operands_eq (connective : Connective) (e : Expr) :
    (∃ left right, e = join connective left right) ∨ operands connective e = [e] := by
  cases connective with
  | and =>
    cases e with
    | and left right => exact .inl ⟨left, right, rfl⟩
    | leaf | or | not => exact .inr rfl
  | or =>
    cases e with
    | or left right => exact .inl ⟨left, right, rfl⟩
    | leaf | and | not => exact .inr rfl

/-- A chain is one level higher than its operands. -/
theorem ChainWithin.height_le {connective : Connective} {n : Nat} {e : Expr}
    (h : e.ChainWithin connective n) : e.height ≤ n + 1 := by
  rcases eq_join_or_operands_eq connective e with ⟨left, right, rfl⟩ | hsingle
  · exact height_join_le_iff.2 h
  · have hself : e ∈ operands connective e := by simp [hsingle]
    exact Nat.le_succ_of_le (h e hself)

/-- No operand of a chain is higher than the chain. -/
theorem chainWithin_of_height_le {connective : Connective} {n : Nat} {e : Expr}
    (h : e.height ≤ n) : e.ChainWithin connective n := by
  rcases eq_join_or_operands_eq connective e with ⟨left, right, rfl⟩ | hsingle
  · intro operand hoperand
    exact (height_join_le_iff.1 (Nat.le_succ_of_le h)) operand hoperand
  · intro operand hoperand
    rw [hsingle, List.mem_singleton] at hoperand
    rwa [hoperand]

/-- An operand that may be absent, joined to a chain that may be absent. -/
theorem chainWithin_merge {connective : Connective} {n : Nat} {chain operand : Option Expr}
    (hchain : ∀ e ∈ chain, e.ChainWithin connective n) (hoperand : ∀ e ∈ operand, e.height ≤ n) :
    ∀ e ∈ Option.merge (join connective) chain operand, e.ChainWithin connective n := by
  cases chain with
  | none =>
    intro e he
    rw [Option.merge_none_left] at he
    exact chainWithin_of_height_le (hoperand e he)
  | some left =>
    cases operand with
    | none => simpa using hchain
    | some right =>
      intro e he
      obtain rfl : join connective left right = e := by simpa using he
      exact chainWithin_join.2 ⟨hchain left rfl, hoperand right rfl⟩

end Expr

end MailSearch
