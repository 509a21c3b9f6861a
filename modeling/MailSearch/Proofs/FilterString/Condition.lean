import MailSearch.Proofs.FilterString.Chain

/-!
# What a filter string asks for

NOT binds tighter than AND, and AND tighter than OR: with that a chain becomes a tree of connectives
(`Chain.condition`), and a filter string a condition (`Condition.read?`). A condition holds of a
record or it does not. All it sees of the record are the comparisons that the record meets.

Where two chains are put together, the seam can regroup what is on either side. After an OR nothing
is regrouped (`holds_append_or`). After an AND that is so only where no OR stands outside of
parentheses (`Chain.isConjunction`); otherwise the AND reaches up to the first such OR
(`Chain.exists_first_or`).
-/

namespace MailSearch.FilterString

/-- A boolean combination of comparisons. -/
inductive Condition where
  | test (comparison : Comparison)
  | and (left right : Condition)
  | or (left right : Condition)
  | not (operand : Condition)
  deriving DecidableEq, Repr

/-- Whether a condition holds of a record that meets these comparisons. -/
def Condition.holds (meets : Comparison → Bool) : Condition → Bool
  | .test comparison => meets comparison
  | .and left right => left.holds meets && right.holds meets
  | .or left right => left.holds meets || right.holds meets
  | .not operand => !operand.holds meets

/-! ### Precedence -/

/-- Adds a conjunction to the disjunction of those before it, if there are any. -/
def Condition.orAfter (earlier : Option Condition) (last : Condition) : Condition :=
  match earlier with
  | none => last
  | some earlier => .or earlier last

mutual

/-- What an operand asks for. -/
def Operand.condition : Operand → Condition
  | .comparison comparison => .test comparison
  | .not operand => .not operand.condition
  | .group chain => .orAfter chain.parts.1 chain.parts.2

/-- What is before the last OR of a chain, and the conjunction after it. -/
def Chain.parts : Chain → Option Condition × Condition
  | .single operand => (none, operand.condition)
  | .join before .and last => (before.parts.1, .and before.parts.2 last.condition)
  | .join before .or last => (some (.orAfter before.parts.1 before.parts.2), last.condition)

end

/-- What a chain asks for: AND binds tighter than OR, and both group to the left. -/
def Chain.condition (chain : Chain) : Condition :=
  .orAfter chain.parts.1 chain.parts.2

/-- What a whole filter string asks for. -/
def Condition.read? (text : String) : Option Condition :=
  (Chain.read? text).map Chain.condition

theorem Condition.read?_eq_some_iff {text : String} {condition : Condition} :
    Condition.read? text = some condition ↔
      ∃ chain : Chain, chain.SpelledBy text ∧ chain.condition = condition := by
  simp only [read?, Option.map_eq_some_iff, Chain.read?_eq_some_iff]

example : Condition.read? "x = 1 OR y = 2 AND NOT (z = 3)"
    = some (.or (.test ⟨"x", .eq, .int 1⟩)
        (.and (.test ⟨"y", .eq, .int 2⟩) (.not (.test ⟨"z", .eq, .int 3⟩)))) := by
  decide +kernel

/-- Whether no OR of a chain stands outside of parentheses. -/
def Chain.isConjunction : Chain → Bool
  | .single _ => true
  | .join before .and _ => before.isConjunction
  | .join _ .or _ => false

namespace Chain

theorem condition_of_none {chain : Chain} (h : chain.parts.1 = none) :
    chain.condition = chain.parts.2 := by
  rw [condition, h, Condition.orAfter]

/-- A conjunction has nothing before a last OR. -/
theorem parts_of_isConjunction {chain : Chain} (h : chain.isConjunction = true) :
    chain.parts = (none, chain.condition) := by
  have hnone : chain.parts.1 = none := by
    cases chain with
    | single operand => rfl
    | join before connective last =>
      cases connective with
      | and =>
        have hbefore : before.isConjunction = true := h
        exact congrArg Prod.fst (parts_of_isConjunction hbefore)
      | or => cases h
  rw [condition_of_none hnone, ← hnone]

theorem isConjunction_append_and (a b : Chain) :
    (a.append .and b).isConjunction = (a.isConjunction && b.isConjunction) := by
  cases b with
  | single operand => simp [append, isConjunction]
  | join before connective last =>
    cases connective with
    | and => exact isConjunction_append_and a before
    | or => simp [append, isConjunction]

/-- A chain that is no conjunction has a first OR, with a conjunction before it. -/
theorem exists_first_or {chain : Chain} (h : chain.isConjunction = false) :
    ∃ first rest : Chain, first.isConjunction = true ∧ chain = first.append .or rest := by
  cases chain with
  | single operand => cases h
  | join before connective last =>
    cases hbefore : before.isConjunction with
    | false =>
      -- the first OR is further to the left
      obtain ⟨first, rest, hfirst, rfl⟩ := exists_first_or hbefore
      exact ⟨first, .join rest connective last, hfirst, rfl⟩
    | true =>
      cases connective with
      | and => rw [isConjunction, hbefore] at h; cases h
      | or => exact ⟨before, .single last, hbefore, rfl⟩

/-! ### Seams -/

theorem condition_join_and {before : Chain} (h : before.isConjunction = true) (last : Operand) :
    (join before .and last).condition = .and before.condition last.condition := by
  have hnone : (join before .and last).parts.1 = none :=
    congrArg Prod.fst (parts_of_isConjunction h)
  rw [condition_of_none hnone, parts, parts_of_isConjunction h]

theorem parts_append_or_of_isConjunction (a : Chain) {b : Chain} (hb : b.isConjunction = true) :
    (a.append .or b).parts = (some a.condition, b.parts.2) := by
  cases b with
  | single operand => rfl
  | join before connective last =>
    cases connective with
    | and =>
      have hbefore : before.isConjunction = true := hb
      rw [append, parts, parts_append_or_of_isConjunction a hbefore, parts]
    | or => cases hb

theorem condition_append_or (a : Chain) {b : Chain} (hb : b.isConjunction = true) :
    (a.append .or b).condition = .or a.condition b.condition := by
  rw [condition, parts_append_or_of_isConjunction a hb, parts_of_isConjunction hb]
  rfl

section Seams

variable (meets : Comparison → Bool)

/-- A chain holds where what is before its last OR does, or what is after it. -/
theorem holds_condition (chain : Chain) :
    chain.condition.holds meets
      = (chain.parts.1.any (·.holds meets) || chain.parts.2.holds meets) := by
  rw [condition]
  cases chain.parts.1 with
  | none => rfl
  | some earlier => rfl

/-- What an OR has on its left is before the last OR, and what it has on its right stays as it is.
-/
theorem parts_append_or (a b : Chain) :
    (a.append .or b).parts.1.any (·.holds meets)
        = (a.condition.holds meets || b.parts.1.any (·.holds meets)) ∧
      (a.append .or b).parts.2 = b.parts.2 := by
  cases b with
  | single operand => exact ⟨(Bool.or_false _).symm, rfl⟩
  | join before connective last =>
    obtain ⟨hearlier, hlast⟩ := parts_append_or a before
    cases connective with
    | and => exact ⟨hearlier, by simp only [append, parts, hlast]⟩
    | or =>
      -- the OR on the right becomes the last one, and all that was before is before it
      refine ⟨?_, rfl⟩
      show (a.append .or before).condition.holds meets
        = (a.condition.holds meets || before.condition.holds meets)
      rw [holds_condition, holds_condition meets before, hearlier, hlast, Bool.or_assoc]

/-- **Two chains with an OR between them hold where one of them does.** -/
theorem holds_append_or (a b : Chain) :
    (a.append .or b).condition.holds meets
      = (a.condition.holds meets || b.condition.holds meets) := by
  obtain ⟨hearlier, hlast⟩ := parts_append_or meets a b
  rw [holds_condition, holds_condition meets b, hearlier, hlast, Bool.or_assoc]

/-- **Two conjunctions with an AND between them hold where both do.** -/
theorem holds_append_and {a b : Chain} (ha : a.isConjunction = true) (hb : b.isConjunction = true) :
    (a.append .and b).condition.holds meets
      = (a.condition.holds meets && b.condition.holds meets) := by
  cases b with
  | single operand => rw [append, condition_join_and ha]; rfl
  | join before connective last =>
    cases connective with
    | and =>
      have hbefore : before.isConjunction = true := hb
      -- what the last operand is added to is a conjunction on either side of the equation
      have hseam : (a.append .and before).isConjunction = true := by
        rw [isConjunction_append_and, ha, hbefore]; rfl
      rw [append, condition_join_and hseam, condition_join_and hbefore, Condition.holds,
        Condition.holds, holds_append_and ha hbefore, Bool.and_assoc]
    | or => cases hb

end Seams

end Chain

end MailSearch.FilterString
