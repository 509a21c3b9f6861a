import MailSearch.Proofs.FilterString.Condition

/-!
# Conventions of precedence

A search engine may bind AND tighter than OR, or OR tighter than AND, or both alike and read them
from left to right (`Convention`). Each of these makes a condition of a chain
(`Chain.conditionBy`), and the first one makes the condition that a filter string asks for
elsewhere (`Convention.read?_andFirst`).

The conventions read the same comparisons in the same order (`Chain.tests_conditionBy`), so all that
can differ is how they are grouped. They agree on a chain that has no OR outside of parentheses
(`holdsBy_append_and`). An OR between two such chains is read as an OR of the two where the
convention has nothing to regroup next to it (`holdsBy_join_or`); elsewhere the chain is at least
true or false where both of them are (`holdsBy_append_or_of_eq`).
-/

namespace MailSearch.FilterString

/-- How tightly a search engine binds AND and OR. -/
inductive Convention where
  /-- AND binds tighter. -/
  | andFirst
  /-- OR binds tighter. -/
  | orFirst
  /-- Neither does, and a chain is read from left to right. -/
  | leftToRight
  deriving DecidableEq, Repr

/-- Whether a connective binds looser than the other one. -/
def Convention.isLoose : Convention → Connective → Bool
  | andFirst, .or => true
  | orFirst, .and => true
  | _, _ => false

namespace Condition

def join : Connective → Condition → Condition → Condition
  | .and => and
  | .or => or

/-- Joins the last part of a chain to those before it, if there are any. -/
def joinAfter : Option (Condition × Connective) → Condition → Condition
  | none, last => last
  | some (earlier, connective), last => join connective earlier last

end Condition

mutual

/-- What an operand asks for under a convention. -/
def Operand.conditionBy (c : Convention) : Operand → Condition
  | .comparison comparison => .test comparison
  | .not operand => .not (operand.conditionBy c)
  | .group chain => .joinAfter (chain.partsBy c).1 (chain.partsBy c).2

/-- What is before the last connective that binds looser, with that connective, and the part after
it, which groups to the left. -/
def Chain.partsBy (c : Convention) : Chain → Option (Condition × Connective) × Condition
  | .single operand => (none, operand.conditionBy c)
  | .join before connective last =>
    if c.isLoose connective then
      (some (.joinAfter (before.partsBy c).1 (before.partsBy c).2, connective), last.conditionBy c)
    else ((before.partsBy c).1, .join connective (before.partsBy c).2 (last.conditionBy c))

end

/-- What a chain asks for under a convention. -/
def Chain.conditionBy (c : Convention) (chain : Chain) : Condition :=
  .joinAfter (chain.partsBy c).1 (chain.partsBy c).2

/-- What a whole filter string asks for under a convention. -/
def Convention.read? (c : Convention) (text : String) : Option Condition :=
  (Chain.read? text).map (Chain.conditionBy c)

theorem Convention.read?_eq_of_spelledBy (c : Convention) {chain : Chain} {text : String}
    (h : chain.SpelledBy text) : c.read? text = some (chain.conditionBy c) := by
  rw [read?, Chain.read?_eq_some_iff.2 h, Option.map_some]

example : Convention.orFirst.read? "x = 1 AND y = 2 OR z = 3"
    = some (.and (.test ⟨"x", .eq, .int 1⟩)
        (.or (.test ⟨"y", .eq, .int 2⟩) (.test ⟨"z", .eq, .int 3⟩))) := by
  decide +kernel

/-! ### The convention of the filter language -/

theorem Condition.joinAfter_map_or (earlier : Option Condition) (last : Condition) :
    joinAfter (earlier.map (·, Connective.or)) last = orAfter earlier last := by
  cases earlier with
  | none => rfl
  | some earlier => rfl

mutual

theorem Operand.conditionBy_andFirst (operand : Operand) :
    operand.conditionBy .andFirst = operand.condition := by
  cases operand with
  | comparison comparison => rfl
  | not operand =>
    rw [Operand.conditionBy, Operand.condition, Operand.conditionBy_andFirst operand]
  | group chain =>
    rw [Operand.conditionBy, Operand.condition, Chain.partsBy_andFirst chain,
      Condition.joinAfter_map_or]

theorem Chain.partsBy_andFirst (chain : Chain) :
    chain.partsBy .andFirst = (chain.parts.1.map (·, Connective.or), chain.parts.2) := by
  cases chain with
  | single operand =>
    rw [Chain.partsBy, Operand.conditionBy_andFirst operand]
    rfl
  | join before connective last =>
    rw [Chain.partsBy, Chain.partsBy_andFirst before, Operand.conditionBy_andFirst last]
    cases connective with
    | and => rfl
    | or =>
      rw [Condition.joinAfter_map_or]
      rfl

end

theorem Chain.conditionBy_andFirst (chain : Chain) :
    chain.conditionBy .andFirst = chain.condition := by
  rw [conditionBy, partsBy_andFirst, Condition.joinAfter_map_or, condition]

/-- AND binds tighter in the filter language itself. -/
theorem Convention.read?_andFirst (text : String) :
    andFirst.read? text = Condition.read? text := by
  rw [read?, Condition.read?, funext Chain.conditionBy_andFirst]

/-! ### What is compared -/

/-- The comparisons of a condition from left to right. -/
def Condition.tests : Condition → List Comparison
  | .test comparison => [comparison]
  | .and left right => left.tests ++ right.tests
  | .or left right => left.tests ++ right.tests
  | .not operand => operand.tests

mutual

/-- The comparisons of an operand from left to right. -/
def Operand.comparisons : Operand → List Comparison
  | .comparison comparison => [comparison]
  | .not operand => operand.comparisons
  | .group chain => chain.comparisons

/-- The comparisons of a chain from left to right. -/
def Chain.comparisons : Chain → List Comparison
  | .single operand => operand.comparisons
  | .join before _ last => before.comparisons ++ last.comparisons

end

/-- A condition sees no more of a record than the comparisons in it. -/
theorem Condition.holds_congr {meets meets' : Comparison → Bool} (condition : Condition)
    (h : ∀ comparison ∈ condition.tests, meets comparison = meets' comparison) :
    condition.holds meets = condition.holds meets' := by
  induction condition with
  | test comparison => exact h comparison List.mem_cons_self
  | and left right ihl ihr =>
    rw [holds, holds, ihl fun t ht => h t (List.mem_append_left _ ht),
      ihr fun t ht => h t (List.mem_append_right _ ht)]
  | or left right ihl ihr =>
    rw [holds, holds, ihl fun t ht => h t (List.mem_append_left _ ht),
      ihr fun t ht => h t (List.mem_append_right _ ht)]
  | not operand ih => rw [holds, holds, ih h]

@[simp] theorem Condition.tests_join (k : Connective) (a b : Condition) :
    (join k a b).tests = a.tests ++ b.tests := by
  cases k <;> rfl

/-- Where the last part goes on, so does the whole. -/
theorem Condition.tests_joinAfter_join (earlier : Option (Condition × Connective))
    (part : Condition) (k : Connective) (last : Condition) :
    (joinAfter earlier (join k part last)).tests
      = (joinAfter earlier part).tests ++ last.tests := by
  cases earlier with
  | none => exact tests_join k part last
  | some earlier => simp only [joinAfter, tests_join, List.append_assoc]

mutual

theorem Operand.tests_conditionBy (c : Convention) (operand : Operand) :
    (operand.conditionBy c).tests = operand.comparisons := by
  cases operand with
  | comparison comparison => rfl
  | not operand => exact Operand.tests_conditionBy c operand
  | group chain => exact Chain.tests_conditionBy c chain

/-- **A convention regroups a chain and does no more**: the comparisons stay in their order. -/
theorem Chain.tests_conditionBy (c : Convention) (chain : Chain) :
    (chain.conditionBy c).tests = chain.comparisons := by
  cases chain with
  | single operand => exact Operand.tests_conditionBy c operand
  | join before connective last =>
    have hbefore := Chain.tests_conditionBy c before
    have hlast := Operand.tests_conditionBy c last
    rw [Chain.conditionBy] at hbefore
    rw [Chain.conditionBy, Chain.partsBy]
    split
    · rw [Condition.joinAfter, Condition.tests_join, hbefore, hlast, Chain.comparisons]
    · rw [Condition.tests_joinAfter_join, hbefore, hlast, Chain.comparisons]

end

@[simp] theorem Chain.comparisons_append (a : Chain) (k : Connective) (b : Chain) :
    (a.append k b).comparisons = a.comparisons ++ b.comparisons := by
  cases b with
  | single operand => rfl
  | join before connective last =>
    simp only [append, comparisons, comparisons_append a k before, List.append_assoc]

/-! ### Seams -/

/-- What a connective makes of two truth values. -/
def combine : Connective → Bool → Bool → Bool
  | .and, x, y => x && y
  | .or, x, y => x || y

/-- The truth value that a connective leaves the other one as it is with. -/
def neutral : Connective → Bool
  | .and => true
  | .or => false

@[simp] theorem combine_neutral (k : Connective) (x : Bool) : combine k x (neutral k) = x := by
  cases k <;> cases x <;> rfl

theorem neutral_combine (k : Connective) (x : Bool) : combine k (neutral k) x = x := by
  cases k <;> rfl

theorem combine_assoc (k : Connective) (x y z : Bool) :
    combine k (combine k x y) z = combine k x (combine k y z) := by
  cases k with
  | and => exact Bool.and_assoc x y z
  | or => exact Bool.or_assoc x y z

theorem Condition.holds_join (meets : Comparison → Bool) (k : Connective) (a b : Condition) :
    (join k a b).holds meets = combine k (a.holds meets) (b.holds meets) := by
  cases k <;> rfl

namespace Chain

/-- Whether a chain holds of a record under a convention. -/
def holdsBy (c : Convention) (meets : Comparison → Bool) (chain : Chain) : Bool :=
  (chain.conditionBy c).holds meets

variable {c : Convention} {k : Connective}

/-- The last part of a chain is joined to what is before it by a connective that binds looser. -/
theorem isLoose_of_partsBy {chain : Chain} {earlier : Condition}
    (h : (chain.partsBy c).1 = some (earlier, k)) : c.isLoose k = true := by
  cases chain with
  | single operand => cases h
  | join before connective last =>
    rw [partsBy] at h
    split at h
    · rename_i hloose
      cases h
      exact hloose
    · exact isLoose_of_partsBy h

/-- Only one connective binds looser. -/
theorem eq_of_isLoose {k' : Connective} (h : c.isLoose k = true) (h' : c.isLoose k' = true) :
    k = k' := by
  revert h h'
  cases c <;> cases k <;> cases k' <;> decide

/-- Whether what is before the last part of a chain holds. -/
def earlierHolds (k : Connective) (meets : Comparison → Bool) :
    Option (Condition × Connective) → Bool
  | none => neutral k
  | some (earlier, _) => earlier.holds meets

section Seams

variable {meets : Comparison → Bool}

theorem holdsBy_eq_combine (hk : c.isLoose k = true) (chain : Chain) :
    chain.holdsBy c meets
      = combine k (earlierHolds k meets (chain.partsBy c).1)
          ((chain.partsBy c).2.holds meets) := by
  rw [holdsBy, conditionBy]
  cases hearlier : (chain.partsBy c).1 with
  | none => rw [Condition.joinAfter, earlierHolds, neutral_combine]
  | some earlier =>
    obtain ⟨earlier, k'⟩ := earlier
    obtain rfl : k = k' := eq_of_isLoose hk (isLoose_of_partsBy hearlier)
    exact Condition.holds_join meets k earlier _

/-- What is on the left of a connective that binds looser is before the last part, and what is on
its right stays as it is. -/
theorem partsBy_append_loose (hk : c.isLoose k = true) (meets : Comparison → Bool) (a b : Chain) :
    earlierHolds k meets ((a.append k b).partsBy c).1
        = combine k (a.holdsBy c meets) (earlierHolds k meets (b.partsBy c).1) ∧
      ((a.append k b).partsBy c).2 = (b.partsBy c).2 := by
  cases b with
  | single operand =>
    have hparts : (join a k operand).partsBy c
        = (some (a.conditionBy c, k), operand.conditionBy c) := by
      rw [partsBy, if_pos hk]
      rfl
    rw [append, hparts]
    exact ⟨(combine_neutral k _).symm, rfl⟩
  | join before k' last =>
    obtain ⟨hearlier, hlast⟩ := partsBy_append_loose hk meets a before
    rw [append, partsBy, partsBy]
    cases hk' : c.isLoose k' with
    | true =>
      -- what the last part of the left side is before is before the last part of the whole
      obtain rfl : k = k' := eq_of_isLoose hk hk'
      refine ⟨?_, rfl⟩
      show (a.append k before).holdsBy c meets
        = combine k (a.holdsBy c meets) (before.holdsBy c meets)
      rw [holdsBy_eq_combine hk, holdsBy_eq_combine hk before, hearlier, hlast, combine_assoc]
    | false => exact ⟨hearlier, by rw [hlast]; rfl⟩

/-- **A connective that binds looser joins what is on its two sides**, whatever that is. -/
theorem holdsBy_append_loose (hk : c.isLoose k = true) (a b : Chain) :
    (a.append k b).holdsBy c meets = combine k (a.holdsBy c meets) (b.holdsBy c meets) := by
  obtain ⟨hearlier, hlast⟩ := partsBy_append_loose hk meets a b
  rw [holdsBy_eq_combine hk, holdsBy_eq_combine hk b, hearlier, hlast, combine_assoc]

/-- Where AND and OR bind alike, an operand is joined to all that is before it. -/
theorem holdsBy_join_leftToRight (before : Chain) (k : Connective) (last : Operand) :
    (join before k last).holdsBy .leftToRight meets
      = combine k (before.holdsBy .leftToRight meets)
          ((single last).holdsBy .leftToRight meets) := by
  have hnone : ∀ chain : Chain, (chain.partsBy .leftToRight).1 = none := by
    intro chain
    cases hearlier : (chain.partsBy .leftToRight).1 with
    | none => rfl
    | some earlier =>
      obtain ⟨earlier, k'⟩ := earlier
      have hloose : Convention.leftToRight.isLoose k' = true := isLoose_of_partsBy hearlier
      cases k' <;> cases hloose
  have htight : Convention.leftToRight.isLoose k = false := rfl
  rw [holdsBy, conditionBy, partsBy, htight, holdsBy, conditionBy, hnone]
  exact Condition.holds_join meets k _ _

/-- **Chains of ANDs are read alike.** If AND binds tighter, there may be no OR on the left of the
seam; otherwise an AND that comes later takes in all that is before it. -/
theorem holdsBy_append_and {c : Convention} {a b : Chain}
    (ha : c = .andFirst → a.isConjunction = true) (hb : b.isConjunction = true) :
    (a.append .and b).holdsBy c meets = (a.holdsBy c meets && b.holdsBy c meets) := by
  cases c with
  | andFirst =>
    simp only [holdsBy, conditionBy_andFirst]
    exact holds_append_and meets (ha rfl) hb
  | orFirst => exact holdsBy_append_loose rfl a b
  | leftToRight =>
    cases b with
    | single operand => exact holdsBy_join_leftToRight a .and operand
    | join before connective last =>
      cases connective with
      | and =>
        have hbefore : (a.append .and before).holdsBy .leftToRight meets
            = (a.holdsBy .leftToRight meets && before.holdsBy .leftToRight meets) :=
          holdsBy_append_and (fun h => by cases h) hb
        rw [append, holdsBy_join_leftToRight, hbefore, holdsBy_join_leftToRight]
        exact Bool.and_assoc _ _ _
      | or => cases hb

/-- **An OR with nothing to regroup next to it** joins what is on its two sides: it is followed by
one operand only, and if OR binds tighter there is one operand before it as well. -/
theorem holdsBy_join_or {a : Chain} (ha : c = .orFirst → ∃ operand, a = single operand)
    (last : Operand) :
    (join a .or last).holdsBy c meets = (a.holdsBy c meets || (single last).holdsBy c meets) := by
  cases c with
  | andFirst => exact holdsBy_append_loose rfl a (single last)
  | orFirst =>
    obtain ⟨operand, rfl⟩ := ha rfl
    rfl
  | leftToRight => exact holdsBy_join_leftToRight a .or last

/-- An OR before one operand, with a chain of ANDs before it that it may be read into. -/
theorem holdsBy_join_or_of_eq {c : Convention} {a : Chain} (ha : a.isConjunction = true)
    {last : Operand} {bit : Bool} (hbefore : a.holdsBy c meets = bit)
    (hlast : (single last).holdsBy c meets = bit) : (join a .or last).holdsBy c meets = bit := by
  cases a with
  | single operand =>
    rw [holdsBy_join_or (fun _ => ⟨operand, rfl⟩), hbefore, hlast, Bool.or_self]
  | join before connective operand =>
    cases c with
    | andFirst => rw [holdsBy_join_or (fun h => by cases h), hbefore, hlast, Bool.or_self]
    | leftToRight => rw [holdsBy_join_or (fun h => by cases h), hbefore, hlast, Bool.or_self]
    | orFirst =>
      cases connective with
      | or => cases ha
      | and =>
        -- the OR is between the last two operands, and the AND joins that to the rest
        have hregrouped : (join (join before .and operand) .or last).holdsBy .orFirst meets
            = (before.holdsBy .orFirst meets && ((single operand).holdsBy .orFirst meets
                || (single last).holdsBy .orFirst meets)) := rfl
        have hand : (join before .and operand).holdsBy .orFirst meets
            = (before.holdsBy .orFirst meets && (single operand).holdsBy .orFirst meets) := rfl
        rw [hand] at hbefore
        rw [hregrouped, hlast]
        cases bit with
        | true =>
          rw [Bool.and_eq_true] at hbefore
          rw [hbefore.1, Bool.or_true, Bool.and_true]
        | false => rwa [Bool.or_false]

/-- **Where two chains of ANDs agree, an OR between them does not change that**, however it is read.
-/
theorem holdsBy_append_or_of_eq {c : Convention} {a b : Chain} (ha : a.isConjunction = true)
    (hb : b.isConjunction = true) {bit : Bool} (hleft : a.holdsBy c meets = bit)
    (hright : b.holdsBy c meets = bit) : (a.append .or b).holdsBy c meets = bit := by
  by_cases hc : c = .andFirst
  · subst hc
    rw [holdsBy_append_loose rfl, hleft, hright]
    exact Bool.or_self bit
  · cases b with
    | single operand => exact holdsBy_join_or_of_eq ha hleft hright
    | join before connective last =>
      cases connective with
      | or => cases hb
      | and =>
        have hjoin (chain : Chain) : (join chain .and last).holdsBy c meets
            = (chain.holdsBy c meets && (single last).holdsBy c meets) :=
          holdsBy_append_and (b := single last) (fun h => absurd h hc) rfl
        rw [hjoin] at hright
        rw [append, hjoin]
        -- an operand that does not hold settles both; one that holds settles neither
        cases hlast : (single last).holdsBy c meets with
        | false =>
          rw [hlast, Bool.and_false] at hright
          rwa [Bool.and_false]
        | true =>
          rw [hlast, Bool.and_true] at hright
          rw [Bool.and_true]
          exact holdsBy_append_or_of_eq (b := before) ha hb hleft hright

end Seams

end Chain

end MailSearch.FilterString
