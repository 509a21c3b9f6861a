import Mathlib.Data.List.TakeWhile
import MailSearch.Proofs.Filter.Spans

/-!
# The joints of a query

Between two filters that stand side by side in a query there is one connective, written or not, and
the groups around it say how it binds. A connective in fewer groups joins later, and of those in as
many an OR joins later than an AND. A `Joint` is such a connective with the number of its groups.
The joints settle how the filters are grouped, because each takes in on its left as many of the
joints before it as join earlier (`Joint.spans`).

A parser that builds the expression keeps on a stack the operands whose right side is still to come,
each with the joint that comes next to it. `Waiting` says that such a stack is what the joints so
far amount to. It is kept when a filter is pushed, when the two operands on top are joined, and when
the joint on top turns out to join later (`Waiting.push`, `Waiting.join`, `Waiting.lower`).
-/

namespace MailSearch.Query

/-- The connective between two filters that stand side by side, with the number of groups that it is
in. The query itself counts as one. A joint of level zero is outside of it, between the query and
what is read after it has come to an end. -/
structure Joint where
  level : Nat
  connective : Connective
  deriving DecidableEq, Repr

namespace Joint

/-- The order of joining: what joins earlier has the greater rank. -/
def rank (joint : Joint) : Nat :=
  match joint.connective with
  | .or => 2 * joint.level
  | .and => 2 * joint.level + 1

@[simp] theorem rank_and (level : Nat) : rank ⟨level, .and⟩ = 2 * level + 1 := rfl

@[simp] theorem rank_or (level : Nat) : rank ⟨level, .or⟩ = 2 * level := rfl

/-- Whether a joint takes in one that stands before it. Of equal ones the later does, so chains lean
to the left. -/
def takesIn (joint earlier : Joint) : Bool :=
  joint.rank ≤ earlier.rank

/-- The connective of each joint and the number of joints that it takes in on its left. The latest
joint comes first. -/
def spans : List Joint → List (Connective × Nat)
  | [] => []
  | joint :: before =>
    (joint.connective, (before.takeWhile joint.takesIn).length) :: spans before

@[simp] theorem takesIn_iff {joint earlier : Joint} :
    joint.takesIn earlier = true ↔ joint.rank ≤ earlier.rank := by
  simp [takesIn]

@[simp] theorem length_spans (joints : List Joint) : (spans joints).length = joints.length := by
  induction joints with
  | nil => rfl
  | cons joint before ih => rw [spans, List.length_cons, List.length_cons, ih]

/-- A joint that joins later than all before it takes them all in. -/
theorem spans_cons {joint : Joint} {before : List Joint}
    (h : ∀ earlier ∈ before, joint.rank ≤ earlier.rank) :
    spans (joint :: before) = (joint.connective, before.length) :: spans before := by
  have hall : before.takeWhile joint.takesIn = before := by
    rw [List.takeWhile_eq_self_iff]
    exact fun earlier hmem => takesIn_iff.2 (h earlier hmem)
  rw [spans, hall]

/-- Joints that do not take in a certain one before them take in nothing from there on. -/
theorem spans_append {inner outer : List Joint}
    (h : ∀ earlier ∈ outer.head?, ∀ joint ∈ inner, earlier.rank < joint.rank) :
    spans (inner ++ outer) = spans inner ++ spans outer := by
  induction inner with
  | nil => rfl
  | cons joint inner ih =>
    have hnone : outer.takeWhile joint.takesIn = [] := by
      cases outer with
      | nil => rfl
      | cons earlier outer =>
        have hlt := h earlier rfl joint List.mem_cons_self
        rw [List.takeWhile_cons_of_neg]
        simp only [takesIn_iff]
        omega
    have htakes : (inner ++ outer).takeWhile joint.takesIn = inner.takeWhile joint.takesIn := by
      rw [List.takeWhile_append, hnone, List.append_nil]
      split
      · rename_i hlength
        exact ((List.takeWhile_prefix _).eq_of_length hlength).symm
      · rfl
    have hrest := ih fun earlier hearlier other hmem =>
      h earlier hearlier other (List.mem_cons_of_mem joint hmem)
    rw [List.cons_append, spans, spans, htakes, hrest, List.cons_append]

end Joint

open Joint

/-! ### Operands that wait -/

/-- The operands on a stack are what some joints make of filters that stand between them. The top of
the stack comes first, and so does the latest joint. Each operand is paired with the joint on its
right, and is made up of the joints that this one takes in. -/
inductive Waiting : List (Joint × Expr) → List Joint → Prop
  | nil : Waiting [] []
  | cons {joint : Joint} {e : Expr} {stack : List (Joint × Expr)} {inner outer : List Joint}
      (htakes : ∀ earlier ∈ inner, joint.rank ≤ earlier.rank) (hpositive : e.IsPositive)
      (hspans : e.spans = spans inner) (hstops : ∀ earlier ∈ outer.head?, earlier.rank < joint.rank)
      (hstack : Waiting stack outer) : Waiting ((joint, e) :: stack) (joint :: (inner ++ outer))

namespace Waiting

variable {joint next : Joint} {e left : Expr} {stack : List (Joint × Expr)} {joints : List Joint}

/-- The joint that comes next is the one on top. -/
theorem head?_eq (h : Waiting stack joints) : joints.head? = stack.head?.map Prod.fst := by
  cases h <;> rfl

/-- An operand that waits alone is made up of all joints but the one on its right. -/
theorem single (h : Waiting [(joint, e)] joints) :
    e.IsPositive ∧ e.spans = spans joints.tail := by
  cases h with
  | cons _ hpositive hspans _ hstack =>
    cases hstack
    exact ⟨hpositive, by rw [hspans, List.tail_cons, List.append_nil]⟩

/-- A filter is pushed next to a joint that takes in none below it. -/
theorem push (h : Waiting stack joints) (filter : Filter)
    (hnext : ∀ earlier ∈ joints.head?, earlier.rank < next.rank) :
    Waiting ((next, .leaf filter) :: stack) (next :: joints) :=
  @cons next (.leaf filter) stack [] joints nofun (.leaf filter) rfl hnext h

/-- The joint on top may turn out to join later, as long as it takes in none below it. -/
theorem lower (h : Waiting ((joint, e) :: stack) joints) (hle : next.rank ≤ joint.rank)
    (hnext : ∀ earlier ∈ stack.head?.map Prod.fst, earlier.rank < next.rank) :
    Waiting ((next, e) :: stack) (joints.modifyHead fun _ => next) := by
  cases h with
  | @cons _ _ _ inner outer htakes hpositive hspans hstops hstack =>
    refine .cons (fun earlier hmem => ?_) hpositive hspans ?_ hstack
    · exact Nat.le_trans hle (htakes earlier hmem)
    · rw [hstack.head?_eq]
      exact hnext

/-- The two operands on top are joined by the joint between them, which they wait for then. -/
theorem join (h : Waiting ((joint, e) :: (next, left) :: stack) joints) :
    Waiting ((next, Expr.join next.connective left e) :: stack)
      (joints.modifyHead fun _ => next) := by
  cases h with
  | @cons _ _ _ inner _ htakes hpositive hspans hstops hstack =>
    cases hstack with
    | @cons _ _ _ inner' outer htakes' hpositive' hspans' hstops' hstack =>
      have hlt : next.rank < joint.rank := hstops next rfl
      -- all that is in the right operand joins earlier than the joint between the two
      have hinner : ∀ earlier ∈ inner, next.rank < earlier.rank := fun earlier hmem =>
        Nat.lt_of_lt_of_le hlt (htakes earlier hmem)
      have hall : ∀ earlier ∈ inner ++ next :: inner', next.rank ≤ earlier.rank := by
        intro earlier hmem
        rcases List.mem_append.1 hmem with hmem | hmem
        · exact Nat.le_of_lt (hinner earlier hmem)
        · rcases List.mem_cons.1 hmem with rfl | hmem
          · exact Nat.le_refl _
          · exact htakes' earlier hmem
      have hspans_join : (Expr.join next.connective left e).spans
          = spans (inner ++ next :: inner') := by
        have happend : spans (inner ++ next :: inner') = spans inner ++ spans (next :: inner') :=
          spans_append fun earlier hearlier other hother => by
            obtain rfl : next = earlier := by simpa using hearlier
            exact hinner other hother
        rw [Expr.spans_join, hspans, hspans', happend, spans_cons htakes', length_spans]
      have hjoints : (joint :: (inner ++ next :: (inner' ++ outer))).modifyHead (fun _ => next)
          = next :: ((inner ++ next :: inner') ++ outer) := by
        simp
      rw [hjoints]
      exact .cons hall (.join next.connective hpositive' hpositive) hspans_join hstops' hstack

end Waiting

end MailSearch.Query
