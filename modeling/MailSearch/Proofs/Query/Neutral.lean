import MailSearch.Proofs.Query.Conformance
import MailSearch.Proofs.Query.Reach

/-!
# What makes no difference to a query

The expression that the machine builds depends neither on what it has collected nor on whether it
has warned of the nesting (`Parser.expression_feed_congr`). Tokens that ask for no filter do not
change what has been read (`Parser.expression_feed_of_filter?`), though they may change what later
tokens do to it. Where an operator is due an absent operand changes nothing at all
(`Parser.addOperand_none_of_isSettled`), and where nothing has been read outside of all groups it
makes no difference what is due (`Parser.expression_feed_expecting`).
-/

namespace MailSearch.Query.Parser

/-! ### What the machine goes by -/

/-- The machine without what it has collected, and as if it had warned of the nesting before. -/
def core (p : Parser) : Parser :=
  { p.bare with warned := true }

@[simp] theorem core_warnNesting (p : Parser) : p.warnNesting.core = p.core :=
  stripped_warnNesting true p

/-- A run looks neither at what has been collected nor at what has been warned of. -/
theorem core_feed_congr {p q : Parser} (h : p.core = q.core) (tokens : List Token) :
    (p.feed tokens).core = (q.feed tokens).core :=
  stripped_feed_congr true h tokens

theorem expression_feed_congr {p q : Parser} (h : p.core = q.core) (tokens : List Token) :
    (p.feed tokens).parsed.expression = (q.feed tokens).parsed.expression := by
  have hcore := core_feed_congr h tokens
  show (p.feed tokens).core.parsed.expression = (q.feed tokens).core.parsed.expression
  rw [hcore]

/-! ### Alternatives and absent operands -/

/-- The machine in front of the next alternative, with an absent operand taken there. -/
def alternative (p : Parser) : Parser :=
  { p with group := p.group.nextAlternative }

@[simp] theorem value_group_alternative (p : Parser) :
    p.alternative.group.value = p.group.value := by
  simp [alternative, Group.nextAlternative, Group.value]

@[simp] theorem value_alternative (p : Parser) : p.alternative.value = p.value := by
  show p.enclosing.foldl _ p.alternative.group.value = _
  rw [value_group_alternative]
  rfl

/-- A group that is closed hands over its value, whatever comes next in it. -/
theorem closeGroup_alternative (p : Parser) : p.alternative.closeGroup = p.closeGroup := by
  have henclosing : p.alternative.enclosing = p.enclosing := rfl
  rw [closeGroup, closeGroup, henclosing]
  cases p.enclosing with
  | nil =>
    have hrestart : p.alternative.restart = p.restart := by
      rw [restart, value_alternative]
      rfl
    rw [hrestart]
  | cons outer enclosing =>
    rw [value_group_alternative]
    rfl

/-- Where an operator is due, no NOT waits for an operand. -/
def IsSettled (p : Parser) : Prop :=
  p.expects = .operator → p.group.negations = 0

theorem isSettled_of_operand {p : Parser} (h : p.expects = .operand) : p.IsSettled := by
  intro hexpects
  rw [h] at hexpects
  cases hexpects

theorem isSettled_addOperand (p : Parser) (operand : Option Expr) :
    (p.addOperand operand).IsSettled := by
  intro _
  rfl

theorem expects_negate (p : Parser) : p.negate.expects = .operand := by
  unfold negate
  split <;> rfl

/-- A step leaves off behind an operand, or where one is due. -/
theorem isSettled_step (p : Parser) (token : Token) : (p.step token).IsSettled := by
  have hoperand (q : Parser) : (q.stepOperand token).IsSettled := by
    cases token with
    | field name value raw =>
      simp only [stepOperand, addField]
      cases (resolve name value).value with
      | none => exact isSettled_addOperand _ none
      | some filter => exact isSettled_addOperand _ (some (.leaf filter))
    | keyword text => exact isSettled_addOperand _ none
    | quoted text => exact isSettled_addOperand _ none
    | and | or | rparen => exact isSettled_addOperand q none
    | not => exact isSettled_of_operand q.expects_negate
    | lparen =>
      show q.openGroup.IsSettled
      unfold openGroup
      split
      · exact isSettled_of_operand rfl
      · exact isSettled_addOperand _ none
  unfold step
  cases p.expects with
  | operand => exact hoperand p
  | operator =>
    cases token with
    | and | or => exact isSettled_of_operand rfl
    | rparen =>
      show p.closeGroup.IsSettled
      unfold closeGroup
      cases p.enclosing with
      | nil => exact isSettled_addOperand _ none
      | cons outer enclosing => exact isSettled_addOperand _ p.group.value
    | keyword text => exact hoperand p.restart
    | quoted text => exact hoperand p.restart
    | field name value raw => exact hoperand p
    | not => exact hoperand p
    | lparen => exact hoperand p

theorem isSettled_feed_start (maxDepth : Int) (tokens : List Token) :
    ((start maxDepth).feed tokens).IsSettled := by
  rcases tokens.eq_nil_or_concat with rfl | ⟨before, last, rfl⟩
  · intro hexpects
    rw [feed_nil, (start_fresh maxDepth).2.2.1] at hexpects
    cases hexpects
  · rw [List.concat_eq_append, feed_append]
    exact isSettled_step _ last

/-- Where an operator is due, an absent operand has no effect. -/
theorem addOperand_none_of_isSettled {p : Parser} (h : p.IsSettled)
    (hexpects : p.expects = .operator) : p.addOperand none = p := by
  have hgroup : p.group.addOperand none = p.group := by
    rw [Group.addOperand, Option.map_none, Option.merge_none_right, ← h hexpects]
  rw [addOperand, hgroup, ← hexpects]

/-! ### Tokens without a filter -/

/-- A token that asks for no filter does not change what has been read. -/
theorem expression_step_of_filter? (p : Parser) {token : Token} (h : token.filter? = none) :
    (p.step token).parsed.expression = p.parsed.expression := by
  have habsent (q : Parser) : (q.addOperand none).parsed.expression = q.parsed.expression := by
    show Option.merge Expr.and q.finished (q.addOperand none).value = _
    rw [value_addOperand_none]
    rfl
  have hrestart : p.restart.parsed.expression = p.parsed.expression := Option.merge_none_right
  have hoperand (q : Parser) : (q.stepOperand token).parsed.expression = q.parsed.expression := by
    cases token with
    | field name value raw =>
      have hunresolved : (resolve name value).value = none := h
      simp only [stepOperand, addField, hunresolved]
      exact habsent q
    | keyword text => exact habsent q
    | quoted text => exact habsent q
    | and | or | rparen => exact habsent q
    | not =>
      show q.negate.core.parsed.expression = q.core.parsed.expression
      rw [negate]
      split
      · rfl
      · show q.warnNesting.core.parsed.expression = q.core.parsed.expression
        rw [core_warnNesting]
    | lparen =>
      show q.openGroup.core.parsed.expression = q.core.parsed.expression
      rw [openGroup]
      split
      · exact habsent q
      · show (q.warnNesting.core.addOperand none).parsed.expression = _
        rw [core_warnNesting]
        exact habsent q.core
  by_cases hrparen : token = .rparen
  · rw [hrparen, expression_step_rparen]
  · unfold step
    cases p.expects with
    | operand => exact hoperand p
    | operator =>
      cases token with
      | and => rfl
      | or =>
        show Option.merge Expr.and p.finished p.alternative.value = _
        rw [value_alternative]
        rfl
      | rparen => exact absurd rfl hrparen
      | keyword text => exact (hoperand p.restart).trans hrestart
      | quoted text => exact (hoperand p.restart).trans hrestart
      | field name value raw => exact hoperand p
      | not => exact hoperand p
      | lparen => exact hoperand p

theorem expression_feed_of_filter? {tokens : List Token}
    (h : tokens.filterMap Token.filter? = []) (p : Parser) :
    (p.feed tokens).parsed.expression = p.parsed.expression := by
  rw [List.filterMap_eq_nil_iff] at h
  induction tokens generalizing p with
  | nil => rfl
  | cons token tokens ih =>
    rw [feed_cons, ih fun t ht => h t (List.mem_cons_of_mem token ht),
      expression_step_of_filter? p (h token List.mem_cons_self)]

/-! ### Where nothing has been read -/

/-- The machine where something else is due. -/
def expecting (p : Parser) (due : Expects) : Parser :=
  { p with expects := due }

theorem addOperand_none_of_fresh {p : Parser} (hgroup : p.group = {}) :
    p.addOperand none = p.expecting .operator := by
  simp [expecting, addOperand, Group.addOperand, hgroup]

theorem restart_of_fresh {p : Parser} (hgroup : p.group = {}) (henclosing : p.enclosing = []) :
    p.restart = p.expecting .operand := by
  simp [expecting, restart, value, Group.value, hgroup, henclosing]

theorem closeGroup_of_fresh {p : Parser} (hgroup : p.group = {}) (henclosing : p.enclosing = []) :
    p.closeGroup = p.expecting .operator := by
  rw [closeGroup, henclosing, restart_of_fresh hgroup henclosing]
  exact addOperand_none_of_fresh (p := p.expecting .operand) hgroup

/-- Where nothing has been read, it makes no difference what is due: what can be read differently is
dropped or starts anew. Induction on the tokens. AND and OR swap the two machines; all other tokens
take them to the same place. -/
theorem expression_feed_expecting {p : Parser} (hgroup : p.group = {})
    (henclosing : p.enclosing = []) (tokens : List Token) :
    ((p.expecting .operand).feed tokens).parsed.expression
      = ((p.expecting .operator).feed tokens).parsed.expression := by
  have habsent : (p.expecting .operand).addOperand none = p.expecting .operator :=
    addOperand_none_of_fresh hgroup
  have hrestart : (p.expecting .operator).restart = p.expecting .operand :=
    restart_of_fresh hgroup henclosing
  induction tokens with
  | nil => rfl
  | cons token tokens ih =>
    have hsame (due : Expects) : (p.expecting due).stepOperand token = p.stepOperand token :=
      stepOperand_expects p due token
    have hboth (h : (p.expecting .operand).step token = (p.expecting .operator).step token) :
        ((p.expecting .operand).feed (token :: tokens)).parsed.expression
          = ((p.expecting .operator).feed (token :: tokens)).parsed.expression := by
      rw [feed_cons, feed_cons, h]
    cases token with
    | field | not | lparen => exact hboth ((hsame .operand).trans (hsame .operator).symm)
    | keyword text =>
      apply hboth
      show _ = (p.expecting .operator).restart.stepOperand (.keyword text)
      rw [hrestart]
      rfl
    | quoted text =>
      apply hboth
      show _ = (p.expecting .operator).restart.stepOperand (.quoted text)
      rw [hrestart]
      rfl
    | rparen =>
      apply hboth
      have hclose : (p.expecting .operator).closeGroup = p.expecting .operator :=
        closeGroup_of_fresh hgroup henclosing
      exact habsent.trans hclose.symm
    | and =>
      show (((p.expecting .operand).addOperand none).feed tokens).parsed.expression = _
      rw [habsent]
      exact ih.symm
    | or =>
      have hnext : (p.expecting .operator).step .or = p.expecting .operand := by
        simp [expecting, step, stepOperator, Group.nextAlternative, Group.value, hgroup]
      show (((p.expecting .operand).addOperand none).feed tokens).parsed.expression = _
      rw [habsent, feed_cons, hnext]
      exact ih.symm

end MailSearch.Query.Parser
