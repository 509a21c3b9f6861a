import MailSearch.Query.Parser

/-!
# What a step of the query machine keeps

The machine that parses queries collects keywords, filters and events on the side. This module shows
that they stay on the side. `Parser.bare` forgets them, and `Parser.stripped` can forget the flag of
the warning with them. A step on a machine that has forgotten them does to the rest what it does on
the machine itself (`Parser.stripped_step`), so two machines that differ only in what they have
collected build the same expression.

It also shows that the machine warns of deep nesting once at most: `Parser.WarnsOnce` says that the
number of such warnings among its events is the one that its flag `warned` tells, and every step
keeps it.
-/

namespace MailSearch

/-- Whether an event is the warning that a query nests too deep. -/
def Event.isNestingWarning : Event → Bool
  | .nestingIgnored _ => true
  | _ => false

namespace Query

@[simp] theorem Group.value_addOperand_none (group : Group) :
    (group.addOperand none).value = group.value := by
  simp [Group.addOperand, Group.value]

/-! ### What is collected on the side -/

namespace Parser

/-- The machine without what it has collected on the side. -/
def bare (p : Parser) : Parser :=
  { p with keywords := #[], filters := #[], events := #[] }

/-- The machine without what it has collected, and as if it had warned of the nesting before if
`told`. -/
def stripped (told : Bool) (p : Parser) : Parser :=
  { p.bare with warned := told || p.warned }

/-- The value of the query depends on nothing collected. -/
@[simp] theorem value_bare (p : Parser) : p.bare.value = p.value := rfl

/-- An absent operand does not change what has been read. -/
@[simp] theorem value_addOperand_none (p : Parser) : (p.addOperand none).value = p.value := by
  show p.enclosing.foldl _ (p.group.addOperand none).value = _
  rw [Group.value_addOperand_none]
  rfl

/-- At the start nothing has been read, whatever the limit. -/
theorem bare_start (maxDepth : Int) :
    (start maxDepth).bare = { limit := min maxDepth maxDepthCeiling } := by
  unfold start
  split
  · have hlimit : min maxDepth maxDepthCeiling = maxDepthCeiling := by omega
    rw [hlimit]
    rfl
  · have hlimit : min maxDepth maxDepthCeiling = maxDepth := by omega
    rw [hlimit]
    rfl

section Stripped

variable (told : Bool) (p : Parser)

/-- Taking an operand does not look at what has been collected. -/
theorem stripped_addOperand (operand : Option Expr) :
    (p.addOperand operand).stripped told = (p.stripped told).addOperand operand := rfl

/-- A field term leaves only the leaf of its filter behind, or an absent operand. -/
theorem stripped_addField (name value raw : String) :
    (p.addField name value raw).stripped told
      = (p.stripped told).addOperand ((resolve name value).value.map .leaf) := by
  simp only [addField]
  cases (resolve name value).value with
  | none => rfl
  | some filter => rfl

/-- A warning only sets the flag. -/
theorem stripped_warnNesting :
    p.warnNesting.stripped told = { p.stripped told with warned := true } := by
  unfold warnNesting
  cases hwarned : p.warned with
  | true => simp [stripped, hwarned]
  | false => simp [stripped, bare]

theorem stripped_stripped : (p.stripped told).stripped told = p.stripped told := by
  cases told <;> rfl

theorem stripped_stepOperand (token : Token) :
    (p.stepOperand token).stripped told = ((p.stripped told).stepOperand token).stripped told := by
  have hdepth : (p.stripped told).depth = p.depth := rfl
  have hlimit : (p.stripped told).limit = p.limit := rfl
  have hwarn : p.warnNesting.stripped told = (p.stripped told).warnNesting.stripped told := by
    rw [stripped_warnNesting, stripped_warnNesting, stripped_stripped]
  have habsent : (p.stripped told).addOperand none
      = ((p.stripped told).stripped told).addOperand none := by
    rw [stripped_stripped]
  cases token with
  | field name value raw => simp only [stepOperand, stripped_addField, stripped_stripped]
  | keyword text => exact habsent
  | quoted text => exact habsent
  | and | or | rparen => exact habsent
  | not =>
    show p.negate.stripped told = (p.stripped told).negate.stripped told
    rw [negate, negate, hdepth, hlimit]
    split
    · cases told <;> rfl
    · show { p.warnNesting.stripped told with expects := .operand }
        = { (p.stripped told).warnNesting.stripped told with expects := .operand }
      rw [hwarn]
  | lparen =>
    show p.openGroup.stripped told = (p.stripped told).openGroup.stripped told
    rw [openGroup, openGroup, hdepth, hlimit]
    split
    · cases told <;> rfl
    · rw [stripped_addOperand, stripped_addOperand, hwarn]

theorem stripped_closeGroup :
    p.closeGroup.stripped told = (p.stripped told).closeGroup.stripped told := by
  have henclosing : (p.stripped told).enclosing = p.enclosing := rfl
  rw [closeGroup, closeGroup, henclosing]
  cases p.enclosing with
  | nil => cases told <;> rfl
  | cons outer enclosing => cases told <;> rfl

/-- **A step does not look at what has been collected**, nor at what has been warned of. -/
theorem stripped_step (token : Token) :
    (p.step token).stripped told = ((p.stripped told).step token).stripped told := by
  have hexpects : (p.stripped told).expects = p.expects := rfl
  rw [step, step, hexpects]
  cases p.expects with
  | operand => exact stripped_stepOperand told p token
  | operator =>
    cases token with
    | and | or => cases told <;> rfl
    | rparen => exact stripped_closeGroup told p
    | keyword text => exact stripped_stepOperand told p.restart (.keyword text)
    | quoted text => exact stripped_stepOperand told p.restart (.quoted text)
    | field name value raw => exact stripped_stepOperand told p (.field name value raw)
    | not => exact stripped_stepOperand told p .not
    | lparen => exact stripped_stepOperand told p .lparen

end Stripped

/-- Two machines that differ only in what a step does not look at go on to do so. Induction on the
tokens. -/
theorem stripped_feed_congr (told : Bool) {p q : Parser} (h : p.stripped told = q.stripped told)
    (tokens : List Token) : (p.feed tokens).stripped told = (q.feed tokens).stripped told := by
  induction tokens generalizing p q with
  | nil => exact h
  | cons token tokens ih =>
    apply ih
    rw [stripped_step told p, h, ← stripped_step told q]

/-- Two machines that differ only in what they have collected go on to do so. -/
theorem bare_feed_congr {p q : Parser} (h : p.bare = q.bare) (tokens : List Token) :
    (p.feed tokens).bare = (q.feed tokens).bare :=
  stripped_feed_congr false h tokens

/-! ### Warnings -/

/-- The warnings of deep nesting among the events are as many as the flag tells: one or none. -/
def WarnsOnce (p : Parser) : Prop :=
  p.events.toList.countP Event.isNestingWarning = p.warned.toNat

end Parser

/-- What resolving a term reports is no warning of deep nesting. -/
theorem countP_events_resolve (name value : String) :
    (resolve name value).events.countP Event.isNestingWarning = 0 := by
  have hdate (key : String) (operator : Operator) :
      (resolveDate key operator value).events.countP Event.isNestingWarning = 0 := by
    unfold resolveDate
    split <;> rfl
  simp only [resolve]
  split
  · rfl
  · split
    · exact hdate _ _
    · split
      · exact hdate _ _
      · split <;> rfl

namespace Parser

theorem WarnsOnce.start (maxDepth : Int) : (start maxDepth).WarnsOnce := by
  unfold Parser.start
  split <;> rfl

theorem WarnsOnce.warnNesting {p : Parser} (h : p.WarnsOnce) : p.warnNesting.WarnsOnce := by
  unfold Parser.warnNesting
  cases hwarned : p.warned with
  | true => simpa [hwarned] using h
  | false =>
    have hnone : p.events.toList.countP Event.isNestingWarning = 0 := by rw [h, hwarned]; rfl
    simp [WarnsOnce, hnone, Event.isNestingWarning]

theorem WarnsOnce.addField {p : Parser} (h : p.WarnsOnce) (name value raw : String) :
    (p.addField name value raw).WarnsOnce := by
  have hcount : (p.events ++ (resolve name value).events).toList.countP Event.isNestingWarning
      = p.warned.toNat := by
    rw [Array.toList_appendList, List.countP_append, countP_events_resolve, Nat.add_zero]
    exact h
  simp only [Parser.addField]
  cases (resolve name value).value with
  | none => exact hcount
  | some filter => exact hcount

theorem WarnsOnce.stepOperand {p : Parser} (h : p.WarnsOnce) (token : Token) :
    (p.stepOperand token).WarnsOnce := by
  cases token with
  | field name value raw => exact h.addField name value raw
  | keyword text => exact h
  | quoted text => exact h
  | and => exact h
  | or => exact h
  | rparen => exact h
  | not =>
    show p.negate.WarnsOnce
    unfold Parser.negate
    split
    · exact h
    · exact h.warnNesting
  | lparen =>
    show p.openGroup.WarnsOnce
    unfold Parser.openGroup
    split
    · exact h
    · exact h.warnNesting

/-- A step logs a warning only when it sets the flag. -/
theorem WarnsOnce.step {p : Parser} (h : p.WarnsOnce) (token : Token) :
    (p.step token).WarnsOnce := by
  unfold Parser.step
  cases p.expects with
  | operand => exact h.stepOperand token
  | operator =>
    cases token with
    | and => exact h
    | or => exact h
    | rparen =>
      show p.closeGroup.WarnsOnce
      unfold Parser.closeGroup
      cases p.enclosing <;> exact h
    | keyword text => exact h
    | quoted text => exact h
    | field name value raw => exact h.addField name value raw
    | not => exact h.stepOperand .not
    | lparen => exact h.stepOperand .lparen

/-- **One warning at most**, over a run of any length. Induction on the tokens. -/
theorem WarnsOnce.feed {p : Parser} (h : p.WarnsOnce) (tokens : List Token) :
    (p.feed tokens).WarnsOnce := by
  induction tokens generalizing p with
  | nil => exact h
  | cons token tokens ih => exact ih (h.step token)

/-- A machine that has not set its flag has not warned. -/
theorem WarnsOnce.notMem_events {p : Parser} (h : p.WarnsOnce) (hwarned : p.warned = false)
    (limit : Int) : .nestingIgnored limit ∉ p.events.toList := by
  intro hmem
  rw [WarnsOnce, hwarned] at h
  exact List.countP_eq_zero.1 h _ hmem rfl

/-- A machine that has not warned has not set its flag. -/
theorem WarnsOnce.warned_eq_false {p : Parser} (h : p.WarnsOnce)
    (hnone : ∀ limit, .nestingIgnored limit ∉ p.events.toList) : p.warned = false := by
  cases hwarned : p.warned with
  | false => rfl
  | true =>
    have hpos : 0 < p.events.toList.countP Event.isNestingWarning := by
      rw [h, hwarned]
      exact Nat.one_pos
    obtain ⟨event, hmem, hevent⟩ := List.countP_pos_iff.1 hpos
    cases event with
    | nestingIgnored limit => exact absurd hmem (hnone limit)
    | _ => cases hevent

end Parser

end Query

end MailSearch
