import MailSearch.Proofs.Filter.Calls
import MailSearch.Proofs.Query.Restart

/-!
# How high the expression of a query is

The limit on the nesting bounds the height of the expression of a query, whatever its tokens are and
however many there are (`height_parseTokens_le`). A group adds two levels at most to what is in it,
one for its ANDs and one for its ORs, and a negation adds one; what comes on top are the filters,
the AND and the OR of the query itself, and the AND that joins what was read before the machine
started anew.

The invariant gives every open group its room, the number of levels of nesting that the limit leaves
for what is in it (`Group.Fits`, `Group.Stacked`). A NOT or a parenthesis takes one level of it, and
what has been read of a group is as high as twice its room allows. The chains of a group only grow
at their end, so their operands are what has to be bounded, and not the chains.
-/

namespace MailSearch.Query

open MailSearch.Expr

/-! ### Groups -/

namespace Group

/-- What has been read of a group is no higher than its room allows, and the negations that wait fit
into it. -/
structure Fits (room : Nat) (group : Group) : Prop where
  negations : group.negations ≤ room
  conjunction : ∀ e ∈ group.conjunction, e.ChainWithin .and (2 * room + 1)
  disjunction : ∀ e ∈ group.disjunction, e.ChainWithin .or (2 * room + 2)

variable {group : Group} {room : Nat}

theorem Fits.fresh (room : Nat) : Fits room {} :=
  ⟨Nat.zero_le room, nofun, nofun⟩

/-- An operand goes under the negations that wait for it. -/
theorem Fits.addOperand (h : group.Fits room) {operand : Option Expr}
    (hoperand : ∀ e ∈ operand, group.negations + e.height ≤ 2 * room + 1) :
    (group.addOperand operand).Fits room where
  negations := Nat.zero_le room
  conjunction := by
    refine chainWithin_merge h.conjunction fun e he => ?_
    obtain ⟨inner, hinner, rfl⟩ := Option.map_eq_some_iff.1 he
    rw [height_negate]
    exact hoperand inner hinner
  disjunction := h.disjunction

theorem Fits.addOperand_none (h : group.Fits room) : (group.addOperand none).Fits room :=
  h.addOperand nofun

theorem Fits.chainWithin_value (h : group.Fits room) :
    ∀ e ∈ group.value, e.ChainWithin .or (2 * room + 2) :=
  chainWithin_merge h.disjunction fun e he => (h.conjunction e he).height_le

theorem Fits.height_value_le (h : group.Fits room) : ∀ e ∈ group.value, e.height ≤ 2 * room + 3 :=
  fun e he => (h.chainWithin_value e he).height_le

theorem Fits.nextAlternative (h : group.Fits room) : group.nextAlternative.Fits room :=
  ⟨h.negations, nofun, h.chainWithin_value⟩

/-- The groups around a place fit, and leave this room for what is in them. -/
inductive Stacked (limit : Nat) : (room : Nat) → List Group → Prop
  | nil : Stacked limit limit []
  | cons {room : Nat} {group : Group} {enclosing : List Group}
      (hgroup : group.Fits (room + group.negations + 1))
      (henclosing : Stacked limit (room + group.negations + 1) enclosing) :
      Stacked limit room (group :: enclosing)

variable {limit : Nat} {enclosing : List Group}

/-- The room is what the nesting leaves of the limit. -/
theorem Stacked.room_add_nesting (h : Stacked limit room enclosing) :
    room + nesting enclosing = limit := by
  induction h with
  | nil => rfl
  | cons _ _ ih => simp only [nesting]; omega

/-- Closing the groups one after the other takes up the room again. Induction on the groups, from
the inside out. -/
theorem Stacked.height_foldl_le (h : Stacked limit room enclosing) {inner : Option Expr}
    (hinner : ∀ e ∈ inner, e.height ≤ 2 * room + 3) :
    ∀ e ∈ enclosing.foldl (fun inner group => (group.addOperand inner).value) inner,
      e.height ≤ 2 * limit + 3 := by
  induction h generalizing inner with
  | nil => exact hinner
  | @cons room group enclosing hgroup _ ih =>
    have hfits : (group.addOperand inner).Fits (room + group.negations + 1) := by
      refine hgroup.addOperand fun e he => ?_
      have hheight := hinner e he
      omega
    exact ih hfits.height_value_le

end Group

/-! ### The machine -/

namespace Parser

/-- All that the machine has read is no higher than the limit on the nesting allows, with this room
left in the innermost group. -/
structure Fits (room : Nat) (p : Parser) : Prop where
  group : p.group.Fits room
  enclosing : Group.Stacked p.limit.toNat room p.enclosing
  finished : ∀ e ∈ p.finished, e.ChainWithin .and (2 * p.limit.toNat + 3)

variable {p : Parser} {room : Nat}

theorem Fits.height_value_le (h : p.Fits room) :
    ∀ e ∈ p.value, e.height ≤ 2 * p.limit.toNat + 3 :=
  h.enclosing.height_foldl_le h.group.height_value_le

theorem Fits.chainWithin_expression (h : p.Fits room) :
    ∀ e ∈ Option.merge .and p.finished p.value, e.ChainWithin .and (2 * p.limit.toNat + 3) :=
  chainWithin_merge h.finished h.height_value_le

theorem Fits.start (maxDepth : Int) :
    (start maxDepth).Fits (Parser.start maxDepth).limit.toNat := by
  obtain ⟨hgroup, henclosing, -, hfinished⟩ := start_fresh maxDepth
  refine ⟨?_, ?_, ?_⟩
  · rw [hgroup]
    exact .fresh _
  · rw [henclosing]
    exact .nil
  · rw [hfinished]
    exact nofun

/-- Below the limit there is room for a further level. -/
theorem Fits.negations_lt (h : p.Fits room) (hdepth : p.depth < p.limit) :
    p.group.negations < room := by
  have hroom := h.enclosing.room_add_nesting
  unfold depth at hdepth
  omega

/-! ### Step by step -/

theorem Fits.addOperand (h : p.Fits room) {operand : Option Expr}
    (hoperand : ∀ e ∈ operand, p.group.negations + e.height ≤ 2 * room + 1) :
    (p.addOperand operand).Fits room :=
  ⟨h.group.addOperand hoperand, h.enclosing, h.finished⟩

theorem Fits.addOperand_none (h : p.Fits room) : (p.addOperand none).Fits room :=
  h.addOperand nofun

/-- A filter is one level, and the negations over it are levels of nesting. -/
theorem Fits.addField (h : p.Fits room) (name value raw : String) :
    (p.addField name value raw).Fits room := by
  have hnegations := h.group.negations
  simp only [Parser.addField]
  cases (resolve name value).value with
  | none => exact ⟨h.group.addOperand_none, h.enclosing, h.finished⟩
  | some filter =>
    refine ⟨h.group.addOperand fun e he => ?_, h.enclosing, h.finished⟩
    obtain rfl : leaf filter = e := Option.some.inj he
    rw [height_leaf]
    omega

theorem Fits.warnNesting (h : p.Fits room) : p.warnNesting.Fits room := by
  unfold Parser.warnNesting
  split
  · exact h
  · exact ⟨h.group, h.enclosing, h.finished⟩

theorem Fits.negate (h : p.Fits room) : p.negate.Fits room := by
  unfold Parser.negate
  split
  · rename_i hdepth
    have hnegations := h.negations_lt hdepth
    exact ⟨⟨hnegations, h.group.conjunction, h.group.disjunction⟩, h.enclosing, h.finished⟩
  · have hwarns := h.warnNesting
    exact ⟨hwarns.group, hwarns.enclosing, hwarns.finished⟩

/-- A group takes the room that its parenthesis and the negations before it leave. -/
theorem Fits.openGroup (h : p.Fits room) : ∃ inner, p.openGroup.Fits inner := by
  unfold Parser.openGroup
  split
  · rename_i hdepth
    have hnegations := h.negations_lt hdepth
    obtain ⟨inner, rfl⟩ : ∃ inner, room = inner + p.group.negations + 1 :=
      ⟨room - p.group.negations - 1, by omega⟩
    exact ⟨inner, .fresh inner, .cons h.group h.enclosing, h.finished⟩
  · exact ⟨room, h.warnNesting.addOperand_none⟩

/-- Starting anew gives all of the room back. -/
theorem Fits.restart (h : p.Fits room) : p.restart.Fits p.limit.toNat :=
  ⟨.fresh _, .nil, h.chainWithin_expression⟩

/-- Closing a group gives the room of the group around it back, where its value is one operand. -/
theorem Fits.closeGroup (h : p.Fits room) : ∃ outer, p.closeGroup.Fits outer := by
  have hvalue := h.group.height_value_le
  have henclosing := h.enclosing
  unfold Parser.closeGroup
  split
  · exact ⟨_, h.restart.addOperand_none⟩
  · rename_i outer enclosing hcons
    rw [hcons] at henclosing
    cases henclosing with
    | cons hgroup hstacked =>
      refine ⟨room + outer.negations + 1, hgroup.addOperand fun e he => ?_, hstacked, h.finished⟩
      have hheight := hvalue e he
      omega

theorem Fits.stepOperand (h : p.Fits room) (token : Token) :
    ∃ room', (p.stepOperand token).Fits room' := by
  cases token with
  | field name value raw => exact ⟨room, h.addField name value raw⟩
  | keyword text => exact ⟨room, h.group.addOperand_none, h.enclosing, h.finished⟩
  | quoted text => exact ⟨room, h.group.addOperand_none, h.enclosing, h.finished⟩
  | not => exact ⟨room, h.negate⟩
  | lparen => exact h.openGroup
  | and | or | rparen => exact ⟨room, h.addOperand_none⟩

/-- **A step keeps within the room.** -/
theorem Fits.step (h : p.Fits room) (token : Token) : ∃ room', (p.step token).Fits room' := by
  unfold Parser.step
  cases p.expects with
  | operand => exact h.stepOperand token
  | operator =>
    cases token with
    | and => exact ⟨room, h.group, h.enclosing, h.finished⟩
    | or => exact ⟨room, h.group.nextAlternative, h.enclosing, h.finished⟩
    | rparen => exact h.closeGroup
    | keyword text => exact h.restart.stepOperand (.keyword text)
    | quoted text => exact h.restart.stepOperand (.quoted text)
    | field name value raw => exact h.stepOperand (.field name value raw)
    | not => exact h.stepOperand .not
    | lparen => exact h.stepOperand .lparen

/-- **A run keeps within the room.** Induction on the tokens. -/
theorem Fits.feed (h : p.Fits room) (tokens : List Token) :
    ∃ room', (p.feed tokens).Fits room' := by
  induction tokens generalizing p room with
  | nil => exact ⟨room, h⟩
  | cons token tokens ih =>
    obtain ⟨next, hnext⟩ := h.step token
    exact ih hnext

end Parser

/-! ### The expression of a query -/

/-- **The limit on the nesting bounds the height of an expression.** Whatever the tokens are, the
expression of a query has two levels for each level of nesting that the limit allows, and four more,
at most. With so many nested calls it is printed as a filter string, and as many as it has levels
are needed and enough to print it as a document. -/
theorem height_parseTokens_le {maxDepth : Int} {tokens : List Token} {e : Expr}
    (h : (parseTokens maxDepth tokens).value.expression = some e) :
    (e.height : Int) ≤ 2 * max 0 (min maxDepth 100) + 4 ∧
      (∀ calls, e.height ≤ calls → e.renderWithin calls = some e.render) ∧
      ∀ calls, e.toJsonWithin calls = if e.height ≤ calls then some e.toJson else none := by
  obtain ⟨room, hfits⟩ := (Parser.Fits.start maxDepth).feed tokens
  have hlimit : ((Parser.start maxDepth).feed tokens).limit = min maxDepth maxDepthCeiling := by
    rw [Parser.limit_feed]
    exact congrArg Parser.limit (Parser.bare_start maxDepth)
  have hheight := (hfits.chainWithin_expression e h).height_le
  rw [hlimit, maxDepthCeiling] at hheight
  refine ⟨by omega, fun calls hcalls => ?_, fun calls => ?_⟩
  · exact renderWithin_eq hcalls
  · exact toJsonWithin_eq calls e

/-- With one level of nesting allowed, an expression that is as high as it can be: the machine
starts anew at the keyword, and after it come an OR, an AND, and both again in the group. -/
theorem height_parseTokens_le_group :
    let term (value : String) : Token := .field "to" value ("to:" ++ value)
    let filter (value : String) : Expr := .leaf (.text .recipient .eq value)
    let tokens : List Token := [term "a", .keyword "memo", term "b", .or, term "c", .lparen,
      term "d", .or, term "e", term "f", .rparen]
    let e : Expr := .and (filter "a")
      (.or (filter "b") (.and (filter "c") (.or (filter "d") (.and (filter "e") (filter "f")))))
    (parseTokens 1 tokens).value.expression = some e ∧ e.height = 6 ∧
      (e.height : Int) ≤ 2 * max 0 (min 1 100) + 4 ∧ e.renderWithin 6 = some e.render ∧
      e.toJsonWithin 5 = none := by
  intro term filter tokens e
  have hexpression : (parseTokens 1 tokens).value.expression = some e := by decide
  have hheight : e.height = 6 := by decide +kernel
  obtain ⟨hbound, hrender, hdocument⟩ := height_parseTokens_le hexpression
  refine ⟨hexpression, hheight, hbound, hrender 6 (by omega), ?_⟩
  rw [hdocument, if_neg (by omega)]

end MailSearch.Query
