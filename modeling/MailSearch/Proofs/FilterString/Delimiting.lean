import MailSearch.Proofs.FilterString.Convention
import MailSearch.Proofs.FilterString.RoundTrip

/-!
# Filter strings that every search engine reads alike

An expression is printed with parentheses around its ORs and its negated operands, and with none
around its ANDs. So an AND inside of an OR stands next to that OR, and only a convention that binds
AND tighter is sure to leave it alone: where OR binds tighter, `a AND b OR c` is `a AND (b OR c)`,
and where the two bind alike, `a OR b AND c` is `(a OR b) AND c`.

`Expr.isReadBy_iff_isDelimited` says for which expressions a convention finds in the filter string
what the expression says (`Expr.IsReadBy`): the ones whose ORs have no AND as an operand where the
convention would regroup it (`Expr.isDelimited`). That this is enough holds of all expressions. That
it is needed holds of the ones whose filters are all different: there any operand can be made true
or false without a change to the others (`Expr.exists_readings_eq`,
`Expr.exists_readings_pair`).
-/

namespace MailSearch

open FilterString

theorem Filter.eq_of_comparison_eq {f g : Filter} (h : f.comparison = g.comparison) : f = g := by
  have hf := f.ofComparison?_comparison
  rw [h, g.ofComparison?_comparison] at hf
  exact (Option.some.inj hf).symm

namespace Expr

variable {c : Convention} {e left right : Expr}

/-- Whether a search engine finds in the filter string of an expression what the expression says of
each record. -/
def IsReadBy (c : Convention) (e : Expr) : Prop :=
  ∀ meets : Comparison → Bool,
    (c.read? e.render).map (·.holds meets) = some (e.condition.holds meets)

def isAnd : Expr → Bool
  | and _ _ => true
  | _ => false

/-- Whether a convention leaves the operands of an OR alone. Those of them that are ANDs are printed
without parentheses. -/
def keepsApart (c : Convention) (left right : Expr) : Bool :=
  match c with
  | .andFirst => true
  | .orFirst => !left.isAnd && !right.isAnd
  | .leftToRight => !right.isAnd

/-- Whether a convention leaves the operands of every OR alone. -/
def isDelimited (c : Convention) : Expr → Bool
  | leaf _ => true
  | and left right => left.isDelimited c && right.isDelimited c
  | or left right => keepsApart c left right && (left.isDelimited c && right.isDelimited c)
  | not operand => operand.isDelimited c

theorem isDelimited_andFirst (e : Expr) : e.isDelimited .andFirst = true := by
  induction e with
  | leaf filter => rfl
  | and left right ihl ihr => rw [isDelimited, ihl, ihr, Bool.and_self]
  | or left right ihl ihr => rw [isDelimited, ihl, ihr, keepsApart, Bool.and_self, Bool.and_self]
  | not operand ih => exact ih

/-- What a search engine finds in the filter string of an expression, and what the expression says.
-/
def readings (c : Convention) (e : Expr) (meets : Comparison → Bool) : Bool × Bool :=
  (e.chain.holdsBy c meets, e.condition.holds meets)

theorem isReadBy_iff_readings :
    e.IsReadBy c ↔ ∀ meets, (e.readings c meets).1 = (e.readings c meets).2 := by
  simp only [IsReadBy, c.read?_eq_of_spelledBy e.spelledBy_render, Option.map_some,
    Option.some.injEq]
  exact Iff.rfl

/-! ### The filters of an expression -/

/-- The comparisons that an expression makes, from left to right. -/
def comparisons (e : Expr) : List Comparison :=
  e.inorder.map Filter.comparison

theorem comparisons_and (left right : Expr) :
    (and left right).comparisons = left.comparisons ++ right.comparisons :=
  List.map_append

theorem comparisons_or (left right : Expr) :
    (or left right).comparisons = left.comparisons ++ right.comparisons :=
  List.map_append

theorem tests_condition (e : Expr) : e.condition.tests = e.comparisons := by
  induction e with
  | leaf filter => rfl
  | and left right ihl ihr => rw [condition, Condition.tests, ihl, ihr, comparisons_and]
  | or left right ihl ihr => rw [condition, Condition.tests, ihl, ihr, comparisons_or]
  | not operand ih => exact ih

theorem comparisons_chain (e : Expr) : e.chain.comparisons = e.comparisons := by
  induction e with
  | leaf filter => rfl
  | and left right ihl ihr => rw [chain, Chain.comparisons_append, ihl, ihr, comparisons_and]
  | or left right ihl ihr =>
    show (left.chain.append .or right.chain).comparisons = _
    rw [Chain.comparisons_append, ihl, ihr, comparisons_or]
  | not operand ih => exact ih

/-- Records that meet the same of an expression's comparisons are the same to it. -/
theorem readings_congr {meets meets' : Comparison → Bool}
    (h : ∀ comparison ∈ e.comparisons, meets comparison = meets' comparison) :
    e.readings c meets = e.readings c meets' := by
  have hread : e.chain.holdsBy c meets = e.chain.holdsBy c meets' := by
    apply Condition.holds_congr
    rw [Chain.tests_conditionBy, comparisons_chain]
    exact h
  have hsaid : e.condition.holds meets = e.condition.holds meets' := by
    apply Condition.holds_congr
    rw [tests_condition]
    exact h
  rw [readings, readings, hread, hsaid]

/-- Expressions with no filter in common: what each can be read as alone, both can be at once. -/
theorem exists_readings_pair (h : ∀ f ∈ left.inorder, ∀ g ∈ right.inorder, f ≠ g)
    {x y : Bool × Bool} (hleft : ∃ meets, left.readings c meets = x)
    (hright : ∃ meets, right.readings c meets = y) :
    ∃ meets, left.readings c meets = x ∧ right.readings c meets = y := by
  obtain ⟨atLeft, rfl⟩ := hleft
  obtain ⟨atRight, rfl⟩ := hright
  refine ⟨fun t => if t ∈ left.comparisons then atLeft t else atRight t, readings_congr ?_,
    readings_congr ?_⟩
  · intro t ht
    exact if_pos ht
  · intro t ht
    apply if_neg
    intro hleft
    obtain ⟨f, hf, hft⟩ := List.mem_map.1 hleft
    obtain ⟨g, hg, hgt⟩ := List.mem_map.1 ht
    exact h f hf g hg (Filter.eq_of_comparison_eq (hft.trans hgt.symm))

/-! ### What is read off each node -/

theorem holdsBy_chain_not (operand : Expr) (meets : Comparison → Bool) :
    (not operand).chain.holdsBy c meets = !operand.chain.holdsBy c meets := rfl

theorem holdsBy_chain_and (left right : Expr) (meets : Comparison → Bool) :
    (and left right).chain.holdsBy c meets
      = (left.chain.holdsBy c meets && right.chain.holdsBy c meets) :=
  Chain.holdsBy_append_and (fun _ => left.isConjunction_chain) right.isConjunction_chain

/-- What is in parentheses is read as if it stood alone. -/
theorem holdsBy_chain_or (left right : Expr) (meets : Comparison → Bool) :
    (or left right).chain.holdsBy c meets
      = (left.chain.append .or right.chain).holdsBy c meets := rfl

theorem exists_chain_eq_single (h : e.isAnd = false) : ∃ operand, e.chain = .single operand := by
  cases e with
  | leaf filter => exact ⟨_, rfl⟩
  | and left right => cases h
  | or left right => exact ⟨_, rfl⟩
  | not operand => exact ⟨_, rfl⟩

theorem holdsBy_chain_or_of_keepsApart (h : keepsApart c left right = true)
    (meets : Comparison → Bool) :
    (or left right).chain.holdsBy c meets
      = (left.chain.holdsBy c meets || right.chain.holdsBy c meets) := by
  rw [holdsBy_chain_or]
  cases c with
  | andFirst => exact Chain.holdsBy_append_loose rfl left.chain right.chain
  | orFirst =>
    simp only [keepsApart, Bool.and_eq_true, Bool.not_eq_true'] at h
    obtain ⟨last, hlast⟩ := exists_chain_eq_single h.2
    rw [hlast]
    exact Chain.holdsBy_join_or (fun _ => exists_chain_eq_single h.1) last
  | leftToRight =>
    simp only [keepsApart, Bool.not_eq_true'] at h
    obtain ⟨last, hlast⟩ := exists_chain_eq_single h
    rw [hlast]
    exact Chain.holdsBy_join_or (fun h => by cases h) last

/-- **An expression that is delimited is read as it is.** Induction on the expression. -/
theorem holdsBy_chain_of_isDelimited (h : e.isDelimited c = true) (meets : Comparison → Bool) :
    e.chain.holdsBy c meets = e.condition.holds meets := by
  induction e with
  | leaf filter => rfl
  | and left right ihl ihr =>
    rw [isDelimited, Bool.and_eq_true] at h
    rw [holdsBy_chain_and, ihl h.1, ihr h.2]
    rfl
  | or left right ihl ihr =>
    rw [isDelimited, Bool.and_eq_true, Bool.and_eq_true] at h
    rw [holdsBy_chain_or_of_keepsApart h.1, ihl h.2.1, ihr h.2.2]
    rfl
  | not operand ih =>
    rw [holdsBy_chain_not, ih h]
    rfl

/-! ### An expression that is misread -/

/-- An expression of different filters can be had both true and false, and be read so as well. -/
theorem exists_readings_eq (h : e.inorder.Nodup) (bit : Bool) :
    ∃ meets, e.readings c meets = (bit, bit) := by
  induction e generalizing bit with
  | leaf filter => exact ⟨fun _ => bit, rfl⟩
  | not operand ih =>
    obtain ⟨meets, hmeets⟩ := ih h (!bit)
    obtain ⟨hread, hsaid⟩ := Prod.mk.inj hmeets
    refine ⟨meets, ?_⟩
    rw [readings, holdsBy_chain_not, hread, condition, Condition.holds, hsaid, Bool.not_not]
  | and left right ihl ihr =>
    obtain ⟨hl, hr, hdisjoint⟩ := List.nodup_append.1 h
    obtain ⟨meets, hleft, hright⟩ := exists_readings_pair hdisjoint (ihl hl bit) (ihr hr bit)
    obtain ⟨hreadl, hsaidl⟩ := Prod.mk.inj hleft
    obtain ⟨hreadr, hsaidr⟩ := Prod.mk.inj hright
    refine ⟨meets, ?_⟩
    rw [readings, holdsBy_chain_and, hreadl, hreadr, condition, Condition.holds, hsaidl, hsaidr,
      Bool.and_self]
  | or left right ihl ihr =>
    obtain ⟨hl, hr, hdisjoint⟩ := List.nodup_append.1 h
    obtain ⟨meets, hleft, hright⟩ := exists_readings_pair hdisjoint (ihl hl bit) (ihr hr bit)
    obtain ⟨hreadl, hsaidl⟩ := Prod.mk.inj hleft
    obtain ⟨hreadr, hsaidr⟩ := Prod.mk.inj hright
    have hread : (or left right).chain.holdsBy c meets = bit :=
      Chain.holdsBy_append_or_of_eq left.isConjunction_chain right.isConjunction_chain hreadl
        hreadr
    refine ⟨meets, ?_⟩
    rw [readings, hread, condition, Condition.holds, hsaidl, hsaidr, Bool.or_self]

theorem exists_eq_and (h : e.isAnd = true) : ∃ left right, e = and left right := by
  cases e with
  | and left right => exact ⟨left, right, rfl⟩
  | leaf | or | not => cases h

/-- In `a OR b AND c` an AND that does not bind tighter takes in all that is before it: if `a` is
true and `c` is not, the whole is true and read as false. -/
theorem exists_misread_and_right {middle last : Expr}
    (h : (or left (and middle last)).inorder.Nodup) (hc : c ≠ .andFirst) :
    ∃ meets, (or left (and middle last)).chain.holdsBy c meets
      ≠ (or left (and middle last)).condition.holds meets := by
  obtain ⟨hl, hr, hdisjoint⟩ := List.nodup_append.1 h
  have hlast : last.inorder.Nodup := (List.nodup_append.1 hr).2.1
  have hfilters : ∀ f ∈ left.inorder, ∀ g ∈ last.inorder, f ≠ g :=
    fun f hf g hg => hdisjoint f hf g (List.mem_append_right _ hg)
  obtain ⟨meets, htrue, hfalse⟩ := exists_readings_pair (c := c) hfilters
    (exists_readings_eq hl true) (exists_readings_eq hlast false)
  obtain ⟨-, hsaid⟩ := Prod.mk.inj htrue
  obtain ⟨hread, -⟩ := Prod.mk.inj hfalse
  refine ⟨meets, ?_⟩
  rw [holdsBy_chain_or, chain, ← Chain.append_assoc,
    Chain.holdsBy_append_and (fun h => absurd h hc) last.isConjunction_chain, hread, condition,
    Condition.holds, hsaid, Bool.and_false, Bool.true_or]
  decide

/-- In `a AND b OR c` an AND that binds looser takes in all that is after it: if `a` is false and
`c` is not, the whole is true and read as false. -/
theorem exists_misread_and_left {first middle : Expr}
    (h : (or (and first middle) right).inorder.Nodup) :
    ∃ meets, (or (and first middle) right).chain.holdsBy .orFirst meets
      ≠ (or (and first middle) right).condition.holds meets := by
  obtain ⟨hl, hr, hdisjoint⟩ := List.nodup_append.1 h
  have hfirst : first.inorder.Nodup := (List.nodup_append.1 hl).1
  have hfilters : ∀ f ∈ first.inorder, ∀ g ∈ right.inorder, f ≠ g :=
    fun f hf => hdisjoint f (List.mem_append_left _ hf)
  obtain ⟨meets, hfalse, htrue⟩ := exists_readings_pair (c := .orFirst) hfilters
    (exists_readings_eq hfirst false) (exists_readings_eq hr true)
  obtain ⟨hread, -⟩ := Prod.mk.inj hfalse
  obtain ⟨-, hsaid⟩ := Prod.mk.inj htrue
  refine ⟨meets, ?_⟩
  rw [holdsBy_chain_or, chain, Chain.append_assoc, Chain.holdsBy_append_loose rfl, combine,
    hread, condition, Condition.holds, hsaid, Bool.false_and, Bool.or_true]
  decide

/-- An OR whose operands are not kept apart is misread of some record. -/
theorem exists_misread_or (h : (or left right).inorder.Nodup)
    (hapart : keepsApart c left right = false) :
    ∃ meets, (or left right).chain.holdsBy c meets ≠ (or left right).condition.holds meets := by
  cases c with
  | andFirst => cases hapart
  | leftToRight =>
    rw [keepsApart, Bool.not_eq_false'] at hapart
    obtain ⟨middle, last, rfl⟩ := exists_eq_and hapart
    exact exists_misread_and_right h (by decide)
  | orFirst =>
    rw [keepsApart, Bool.and_eq_false_iff, Bool.not_eq_false', Bool.not_eq_false'] at hapart
    rcases hapart with hand | hand
    · obtain ⟨first, middle, rfl⟩ := exists_eq_and hand
      exact exists_misread_and_left h
    · obtain ⟨middle, last, rfl⟩ := exists_eq_and hand
      exact exists_misread_and_right h (by decide)

/-- A misreading on one side of a connective shows if the other side leaves it as it is. -/
theorem exists_misread_join {k : Connective} (h : (left.inorder ++ right.inorder).Nodup)
    (hjoin : ∀ meets, (join k left right).chain.holdsBy c meets
      = combine k (left.chain.holdsBy c meets) (right.chain.holdsBy c meets))
    (hside : (∃ meets, left.chain.holdsBy c meets ≠ left.condition.holds meets) ∨
      ∃ meets, right.chain.holdsBy c meets ≠ right.condition.holds meets) :
    ∃ meets, (join k left right).chain.holdsBy c meets
      ≠ (join k left right).condition.holds meets := by
  obtain ⟨hl, hr, hdisjoint⟩ := List.nodup_append.1 h
  have hsaid : ∀ meets, (join k left right).condition.holds meets
      = combine k (left.condition.holds meets) (right.condition.holds meets) := by
    intro meets
    cases k <;> rfl
  rcases hside with ⟨atLeft, hatLeft⟩ | ⟨atRight, hatRight⟩
  · obtain ⟨meets, hleft, hneutral⟩ := exists_readings_pair (c := c) hdisjoint ⟨atLeft, rfl⟩
      (exists_readings_eq hr (neutral k))
    obtain ⟨hreadl, hsaidl⟩ := Prod.mk.inj hleft
    obtain ⟨hreadr, hsaidr⟩ := Prod.mk.inj hneutral
    refine ⟨meets, ?_⟩
    rw [hjoin, hsaid, hreadl, hsaidl, hreadr, hsaidr, combine_neutral, combine_neutral]
    exact hatLeft
  · obtain ⟨meets, hneutral, hright⟩ := exists_readings_pair (c := c) hdisjoint
      (exists_readings_eq hl (neutral k)) ⟨atRight, rfl⟩
    obtain ⟨hreadl, hsaidl⟩ := Prod.mk.inj hneutral
    obtain ⟨hreadr, hsaidr⟩ := Prod.mk.inj hright
    refine ⟨meets, ?_⟩
    rw [hjoin, hsaid, hreadl, hsaidl, hreadr, hsaidr, neutral_combine, neutral_combine]
    exact hatRight

/-- **An expression of different filters that is not delimited is misread of some record.**
Induction on the expression, down to an OR whose operands are not kept apart. -/
theorem exists_misread (h : e.inorder.Nodup) (hdelimited : e.isDelimited c = false) :
    ∃ meets, e.chain.holdsBy c meets ≠ e.condition.holds meets := by
  induction e with
  | leaf filter => cases hdelimited
  | not operand ih =>
    obtain ⟨meets, hmeets⟩ := ih h hdelimited
    refine ⟨meets, fun hnot => hmeets ?_⟩
    rw [holdsBy_chain_not, condition, Condition.holds] at hnot
    exact Bool.not_inj hnot
  | and left right ihl ihr =>
    obtain ⟨hl, hr, -⟩ := List.nodup_append.1 h
    rw [isDelimited, Bool.and_eq_false_iff] at hdelimited
    exact exists_misread_join (k := .and) h (holdsBy_chain_and left right)
      (hdelimited.imp (ihl hl) (ihr hr))
  | or left right ihl ihr =>
    obtain ⟨hl, hr, -⟩ := List.nodup_append.1 h
    cases hapart : keepsApart c left right with
    | false => exact exists_misread_or h hapart
    | true =>
      rw [isDelimited, hapart, Bool.true_and, Bool.and_eq_false_iff] at hdelimited
      exact exists_misread_join (k := .or) h (holdsBy_chain_or_of_keepsApart hapart)
        (hdelimited.imp (ihl hl) (ihr hr))

theorem isReadBy_of_isDelimited (h : e.isDelimited c = true) : e.IsReadBy c :=
  isReadBy_iff_readings.2 (holdsBy_chain_of_isDelimited h)

/-- **Which filter strings a convention reads as they are meant.** All of them if AND binds tighter;
otherwise those of expressions that are delimited, and no others if the filters are all different.
-/
theorem isReadBy_iff_isDelimited (e : Expr) :
    e.IsReadBy .andFirst ∧
      ∀ c : Convention, (e.isDelimited c = true → e.IsReadBy c) ∧
        (e.inorder.Nodup → (e.IsReadBy c ↔ e.isDelimited c = true)) := by
  refine ⟨isReadBy_of_isDelimited e.isDelimited_andFirst, fun c => ⟨isReadBy_of_isDelimited,
    fun h => ⟨fun hread => ?_, isReadBy_of_isDelimited⟩⟩⟩
  cases hdelimited : e.isDelimited c with
  | true => rfl
  | false =>
    obtain ⟨meets, hmisread⟩ := exists_misread h hdelimited
    exact absurd (isReadBy_iff_readings.1 hread meets) hmisread

/-- Messages of one sender. -/
def ofSender (name : String) : Expr :=
  leaf (.text .sender .eq name)

/-- A conjunction with an OR in it is read alike by all, an OR with a conjunction in it is not. -/
theorem isReadBy_iff_isDelimited_senders :
    (∀ c : Convention,
        (and (or (ofSender "a") (ofSender "b")) (not (ofSender "c"))).IsReadBy c) ∧
      ¬ (or (ofSender "a") (and (ofSender "b") (ofSender "c"))).IsReadBy .orFirst := by
  refine ⟨fun c => ((isReadBy_iff_isDelimited _).2 c).1 (by cases c <;> rfl), ?_⟩
  rw [((isReadBy_iff_isDelimited _).2 .orFirst).2 (by decide)]
  decide

/-- An engine that binds OR tighter misses the record of `c` in `a AND b OR c`, and one that reads
from left to right misses the record of `a` in `a OR b AND c`. -/
theorem not_isReadBy_unparenthesised :
    (or (and (ofSender "a") (ofSender "b")) (ofSender "c")).render
        = "(from = \"a\" AND from = \"b\" OR from = \"c\")" ∧
      ¬ (or (and (ofSender "a") (ofSender "b")) (ofSender "c")).IsReadBy .orFirst ∧
      ¬ (or (ofSender "a") (and (ofSender "b") (ofSender "c"))).IsReadBy .leftToRight := by
  refine ⟨by decide +kernel, fun h => ?_, fun h => ?_⟩
  · have hmissed := h fun comparison => comparison.value = .text "c"
    revert hmissed
    decide +kernel
  · have hmissed := h fun comparison => comparison.value = .text "a"
    revert hmissed
    decide +kernel

end Expr

end MailSearch
