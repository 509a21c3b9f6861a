import MailSearch.Proofs.Query.Neutral

/-!
# Operators without an operand

An operator dangles if what comes next is no operand: AND, OR, a closing parenthesis or the end. One
should be able to delete it. The machine does not always agree, since it takes the token that is
there for the operand. Where an operator was due, the token after a dangling one is lost, be it the
parenthesis that closes the group (`value_dangling_next`). Where an operand was due, AND and OR are
taken for one themselves, and the token after them counts.

`value_dangling_iff` says which dangling operators may be deleted. One that has no filter after it
may be. If any tokens may follow, a NOT may be deleted where an operand is due, and all operators
may be where the machine is outside of all groups and has read nothing since it last started anew
(`Parser.IsClear`). At every other place some tokens are read differently: with the operator or
without it the machine has closed a group that is open on the other side, or is due another kind of
token, and `Parser.exists_expression_ne_closeGroup` finds the tokens that bring that to light.
-/

namespace MailSearch.Query

namespace Token

def isOperator : Token → Bool
  | and | or | not => true
  | field .. | keyword _ | quoted _ | lparen | rparen => false

/-- Whether a token leaves an operator before it without an operand. -/
def leavesDangling : Token → Bool
  | and | or | rparen => true
  | field .. | keyword _ | quoted _ | not | lparen => false

theorem isWord_of_isOperator {token : Token} (h : token.isOperator = true) :
    token.isWord = false := by
  cases token with
  | and | or | not => rfl
  | field | keyword | quoted | lparen | rparen => cases h

end Token

namespace Parser

/-! ### A dangling operator -/

section Dangling

variable {p : Parser} {op next : Token}

/-- Where an operand is due, a token that leaves none is taken for an absent one. -/
theorem step_of_leavesDangling (hexpects : p.expects = .operand)
    (hnext : next.leavesDangling = true) : p.step next = p.addOperand none := by
  rw [step, hexpects]
  cases next with
  | and | or | rparen => rfl
  | field | keyword | quoted | not | lparen => cases hnext

/-- A NOT is dropped with the absent operand that it gets. -/
theorem core_negate_addOperand_none (p : Parser) :
    (p.negate.addOperand none).core = (p.addOperand none).core := by
  unfold negate
  split
  · rfl
  · show { p.warnNesting.core with expects := .operand }.addOperand none = _
    rw [core_warnNesting]
    rfl

theorem step_not (p : Parser) : p.step .not = p.negate := by
  unfold step
  cases p.expects <;> rfl

/-- A NOT takes an absent operand, whatever was due. -/
theorem core_feed_dangling_not (p : Parser) (hnext : next.leavesDangling = true) :
    (p.feed [.not, next]).core = (p.addOperand none).core := by
  rw [feed_cons, feed_cons, feed_nil, step_not,
    step_of_leavesDangling p.expects_negate hnext, core_negate_addOperand_none]

/-- Where an operand is due, AND and OR are taken for an absent one. -/
theorem feed_dangling_of_operand (hexpects : p.expects = .operand) (hop : op.isOperator = true)
    (hnot : op ≠ .not) : p.feed [op, next] = (p.addOperand none).step next := by
  have hdangling : op.leavesDangling = true := by
    cases op with
    | and | or => rfl
    | not => exact absurd rfl hnot
    | field | keyword | quoted | lparen | rparen => cases hop
  rw [feed_cons, step_of_leavesDangling hexpects hdangling]
  rfl

/-- Where an operator is due, AND takes the next token for an absent operand. -/
theorem feed_dangling_and (hexpects : p.expects = .operator) (hnext : next.leavesDangling = true) :
    p.feed [.and, next] = p.addOperand none := by
  have hstep : p.step .and = { p with expects := .operand } := by
    rw [step, hexpects]
    rfl
  rw [feed_cons, feed_cons, feed_nil, hstep, step_of_leavesDangling rfl hnext]
  rfl

/-- Where an operator is due, OR takes the next token for the next alternative. -/
theorem feed_dangling_or (hexpects : p.expects = .operator) (h : p.IsSettled)
    (hnext : next.leavesDangling = true) : p.feed [.or, next] = p.alternative := by
  have hstep : p.step .or = { p.alternative with expects := .operand } := by
    rw [step, hexpects]
    rfl
  have hsettled : p.alternative.addOperand none = p.alternative :=
    addOperand_none_of_isSettled h hexpects
  rw [feed_cons, feed_cons, feed_nil, hstep, step_of_leavesDangling rfl hnext]
  exact hsettled

/-- **What a dangling operator comes to.** Let `q` be the machine with an absent operand taken. One
of the two, the machine after the operator and the next token and the machine after the next token
alone, is `q` after the next token; the other is `q` or its next alternative. Only a NOT where an
operand is due makes no difference. -/
theorem core_feed_dangling (h : p.IsSettled) (hop : op.isOperator = true)
    (hnext : next.leavesDangling = true) :
    (p.expects = .operand ∧ op = .not ∧ (p.feed [op, next]).core = (p.feed [next]).core) ∨
    ¬ (p.expects = .operand ∧ op = .not) ∧
      ∃ q d : Parser, q = p.addOperand none ∧ (d = q ∨ d = q.alternative) ∧
        ((p.feed [op, next]).core = d.core ∧ p.feed [next] = q.step next ∨
          p.feed [op, next] = q.step next ∧ p.feed [next] = d) := by
  cases hexpects : p.expects with
  | operand =>
    have hshort : p.feed [next] = p.addOperand none := step_of_leavesDangling hexpects hnext
    by_cases hnot : op = .not
    · refine .inl ⟨rfl, hnot, ?_⟩
      rw [hnot, core_feed_dangling_not p hnext, hshort]
    · refine .inr ⟨fun hop => hnot hop.2, _, _, rfl, .inl rfl, .inr ⟨?_, hshort⟩⟩
      exact feed_dangling_of_operand hexpects hop hnot
  | operator =>
    have hq : p.addOperand none = p := addOperand_none_of_isSettled h hexpects
    have hshort : p.feed [next] = (p.addOperand none).step next := by
      rw [hq]
      rfl
    refine .inr ⟨nofun, ?_⟩
    cases op with
    | and =>
      refine ⟨_, _, rfl, .inl rfl, .inl ⟨?_, hshort⟩⟩
      rw [feed_dangling_and hexpects hnext]
    | not => exact ⟨_, _, rfl, .inl rfl, .inl ⟨core_feed_dangling_not p hnext, hshort⟩⟩
    | or =>
      refine ⟨_, _, rfl, .inr rfl, .inl ⟨?_, hshort⟩⟩
      rw [feed_dangling_or hexpects h hnext, hq]
    | field | keyword | quoted | lparen | rparen => cases hop

end Dangling

/-! ### Where it has no effect -/

/-- Outside of all groups, with nothing read since the machine last started anew. -/
def IsClear (p : Parser) : Prop :=
  p.enclosing = [] ∧ p.group.value = none

instance (p : Parser) : Decidable p.IsClear :=
  inferInstanceAs (Decidable (_ ∧ _))

theorem isClear_addOperand_none {p : Parser} : (p.addOperand none).IsClear ↔ p.IsClear := by
  show p.enclosing = [] ∧ (p.group.addOperand none).value = none ↔ p.IsClear
  rw [Group.value_addOperand_none]
  exact Iff.rfl

theorem group_addOperand_none_of_isClear {p : Parser} (h : p.IsClear) :
    (p.addOperand none).group = {} := by
  have hvalue : Option.merge Expr.or p.group.disjunction p.group.conjunction = none := h.2
  rw [Option.merge_eq_none_iff] at hvalue
  simp [addOperand, Group.addOperand, hvalue]

/-! ### Where it has an effect -/

/-- Outside of all groups, behind something that has been read there. -/
structure IsOutside (p : Parser) (finished : Option Expr) : Prop where
  expects : p.expects = .operator
  enclosing : p.enclosing = []
  finished : p.finished = finished
  value : ∃ x, p.group.value = some x

theorem step_rparen {p : Parser} (hexpects : p.expects = .operator) :
    p.step .rparen = p.closeGroup := by
  rw [step, hexpects]
  rfl

theorem closeGroup_of_enclosing {p : Parser} {outer : Group} {enclosing : List Group}
    (h : p.enclosing = outer :: enclosing) :
    p.closeGroup
      = { p with group := outer, enclosing := enclosing }.addOperand p.group.value := by
  rw [closeGroup, h]

/-- As many closing parentheses as there are open groups close them all. -/
theorem feed_closing {p : Parser} (hexpects : p.expects = .operator) :
    (p.feed (List.replicate p.enclosing.length .rparen)).expects = .operator ∧
      (p.feed (List.replicate p.enclosing.length .rparen)).enclosing = [] ∧
      (p.feed (List.replicate p.enclosing.length .rparen)).finished = p.finished ∧
      (p.feed (List.replicate p.enclosing.length .rparen)).group.value = p.value := by
  generalize henclosing : p.enclosing = enclosing
  induction enclosing generalizing p with
  | nil =>
    refine ⟨hexpects, henclosing, rfl, ?_⟩
    rw [value, henclosing]
    rfl
  | cons outer enclosing ih =>
    have hstep := (step_rparen hexpects).trans (closeGroup_of_enclosing henclosing)
    have hvalue : p.value = (p.step .rparen).value := by
      rw [hstep, value, henclosing]
      rfl
    have hfinished : p.finished = (p.step .rparen).finished := by
      rw [hstep]
      rfl
    rw [List.length_cons, List.replicate_succ, feed_cons, hvalue, hfinished]
    exact ih (by rw [hstep]; rfl) (by rw [hstep]; rfl)

/-- With an operand, something has been read. -/
theorem exists_value_addOperand (p : Parser) (e : Expr) :
    ∃ x, (p.addOperand (some e)).value = some x := by
  have hgroup (group : Group) (e : Expr) : ∃ x, (group.addOperand (some e)).value = some x := by
    simp only [Group.addOperand, Group.value, Option.map_some]
    cases group.conjunction <;> cases group.disjunction <;> exact ⟨_, rfl⟩
  have hfold (enclosing : List Group) (e : Expr) : ∃ x,
      enclosing.foldl (fun inner group => (group.addOperand inner).value) (some e) = some x := by
    induction enclosing generalizing e with
    | nil => exact ⟨e, rfl⟩
    | cons group enclosing ih =>
      obtain ⟨x, hx⟩ := hgroup group e
      rw [List.foldl_cons, hx]
      exact ih x
  obtain ⟨x, hx⟩ := hgroup p.group e
  show ∃ y, p.enclosing.foldl _ (p.group.addOperand (some e)).value = some y
  rw [hx]
  exact hfold p.enclosing x

/-- What is joined by OR to something read outside of all groups is told from what is joined to that
by AND. -/
theorem merge_or_ne_merge_and (finished : Option Expr) (x v e e' : Expr) :
    Option.merge Expr.and finished (some (.or x e))
      ≠ Option.merge Expr.and (Option.merge Expr.and finished (some v)) (some e') := by
  cases finished with
  | none => simp
  | some first =>
    intro h
    simp only [Option.merge_some_some, Option.some.injEq, Expr.and.injEq] at h
    -- no expression is a part of itself
    have hsize := congrArg Expr.size h.1
    simp only [Expr.size] at hsize
    omega

section Distinguish

variable {name value : String} (raw : String) {filter : Filter}

theorem core_step_field (p : Parser) (hresolve : (resolve name value).value = some filter) :
    (p.step (.field name value raw)).core = (p.addOperand (some (.leaf filter))).core := by
  have hadd : (p.addField name value raw).core = (p.addOperand (some (.leaf filter))).core := by
    simp only [addField, hresolve]
    rfl
  unfold step
  cases p.expects with
  | operand => exact hadd
  | operator => exact hadd

/-- A field term, and then a closing parenthesis for each open group. -/
theorem isOutside_feed_field (p : Parser) (hresolve : (resolve name value).value = some filter) :
    (p.feed (.field name value raw :: List.replicate p.enclosing.length .rparen)).IsOutside
      p.finished := by
  have hsame {α : Type} (view : Parser → α) : view (p.step (.field name value raw)).core
      = view (p.addOperand (some (.leaf filter))).core :=
    congrArg view (core_step_field raw p hresolve)
  have hexpects : (p.step (.field name value raw)).expects = .operator := hsame Parser.expects
  have henclosing : (p.step (.field name value raw)).enclosing = p.enclosing :=
    hsame Parser.enclosing
  have hfinished : (p.step (.field name value raw)).finished = p.finished :=
    hsame Parser.finished
  have hvalue : (p.step (.field name value raw)).value
      = (p.addOperand (some (.leaf filter))).value := hsame Parser.value
  obtain ⟨hdue, houtside, hkept, hall⟩ := feed_closing hexpects
  rw [henclosing] at hdue houtside hkept hall
  refine ⟨hdue, houtside, hkept.trans hfinished, ?_⟩
  obtain ⟨x, hx⟩ := exists_value_addOperand p (.leaf filter)
  exact ⟨x, hall.trans (hvalue.trans hx)⟩

/-- Outside of all groups, a term after an OR is joined to what has been read there. -/
theorem exists_expression_or_field {p : Parser} (hexpects : p.expects = .operator)
    (henclosing : p.enclosing = []) (hresolve : (resolve name value).value = some filter) :
    ∃ e, (p.feed [.or, .field name value raw]).parsed.expression
      = Option.merge .and p.finished (Option.merge .or p.group.value (some e)) := by
  have hstep : p.step .or = p.alternative.expecting .operand := by
    rw [step, hexpects]
    rfl
  refine ⟨Expr.negate p.group.negations (.leaf filter), ?_⟩
  rw [feed_cons, feed_cons, feed_nil, expression_step_field _ hresolve, hstep]
  simp [parsed, Parser.value, addOperand, expecting, alternative, henclosing, Group.addOperand,
    Group.nextAlternative, Group.value]

/-- Outside of all groups, a closing parenthesis makes the machine start anew, and an alternative
tells whether it has. -/
theorem IsOutside.expression_ne {p p' : Parser} {finished : Option Expr}
    (h : p.IsOutside finished) (h' : p'.IsOutside finished)
    (hresolve : (resolve name value).value = some filter) :
    (p.feed [.or, .field name value raw]).parsed.expression
      ≠ (p'.closeGroup.feed [.or, .field name value raw]).parsed.expression := by
  obtain ⟨x, hx⟩ := h.value
  obtain ⟨v, hv⟩ := h'.value
  have hclose : p'.closeGroup = p'.restart.addOperand none := by
    rw [closeGroup, h'.enclosing]
  have hvalue : p'.value = some v := by
    rw [Parser.value, h'.enclosing]
    exact hv
  have hfinished : p'.closeGroup.finished = Option.merge .and finished (some v) := by
    rw [hclose, ← h'.finished, ← hvalue]
    rfl
  have hgroup : p'.closeGroup.group.value = none := by
    rw [hclose]
    rfl
  obtain ⟨e, he⟩ := exists_expression_or_field raw h.expects h.enclosing hresolve
  obtain ⟨e', he'⟩ := exists_expression_or_field raw (p := p'.closeGroup)
    (by rw [hclose]; rfl) (by rw [hclose]; rfl) hresolve
  rw [he, he', h.finished, hx, hfinished, hgroup, Option.merge_some_some,
    Option.merge_none_left]
  exact merge_or_ne_merge_and finished x v e e'

/-- **A closing parenthesis that is taken as one has an effect**, unless nothing has been read
outside of all groups. The tokens that show it close all groups, of which there is one more where it
was not taken, so only on the other side the machine starts anew. -/
theorem exists_expression_ne_closeGroup {p : Parser} (hexpects : p.expects = .operator)
    (hclear : ¬ p.IsClear) (hresolve : (resolve name value).value = some filter) :
    ∃ rest, (p.feed rest).parsed.expression ≠ (p.closeGroup.feed rest).parsed.expression := by
  cases henclosing : p.enclosing with
  | nil =>
    have houtside : p.IsOutside p.finished := by
      refine ⟨hexpects, henclosing, rfl, ?_⟩
      cases hvalue : p.group.value with
      | none => exact absurd ⟨henclosing, hvalue⟩ hclear
      | some x => exact ⟨x, rfl⟩
    exact ⟨_, houtside.expression_ne "" houtside hresolve⟩
  | cons outer enclosing =>
    have hclose := closeGroup_of_enclosing henclosing
    have hinside : p.closeGroup.enclosing = enclosing := by
      rw [hclose]
      rfl
    have hfinished : p.closeGroup.finished = p.finished := by
      rw [hclose]
      rfl
    have hdeep := isOutside_feed_field "" p hresolve
    have hshallow := isOutside_feed_field "" p.closeGroup hresolve
    rw [henclosing, List.length_cons] at hdeep
    rw [hinside, hfinished] at hshallow
    refine ⟨.field name value "" :: List.replicate (enclosing.length + 1) .rparen
      ++ [.or, .field name value ""], ?_⟩
    have hlast : (p.closeGroup.feed
        (.field name value "" :: List.replicate (enclosing.length + 1) .rparen))
        = (p.closeGroup.feed
            (.field name value "" :: List.replicate enclosing.length .rparen)).closeGroup := by
      rw [List.replicate_succ', ← List.cons_append, feed_append, feed_cons, feed_nil,
        step_rparen hshallow.expects]
    rw [feed_append, feed_append, hlast]
    exact hdeep.expression_ne "" hshallow hresolve

/-- **The token after a dangling operator has an effect**, unless nothing has been read outside of
all groups. Where the token is AND or OR, one machine is due an operand and the other an operator,
and a closing parenthesis is taken as one by the second only. -/
theorem exists_expression_ne_step {q d : Parser} {next : Token} (hexpects : q.expects = .operator)
    (hsettled : q.IsSettled) (hd : d = q ∨ d = q.alternative)
    (hnext : next.leavesDangling = true) (hclear : ¬ q.IsClear)
    (hresolve : (resolve name value).value = some filter) :
    ∃ rest, (d.feed rest).parsed.expression ≠ ((q.step next).feed rest).parsed.expression := by
  -- what holds of the machine holds of its next alternative as well
  have halike {e : Parser} (he : e = q ∨ e = q.alternative) :
      e.expects = .operator ∧ e.IsSettled ∧ ¬ e.IsClear ∧ e.closeGroup = q.closeGroup := by
    rcases he with rfl | rfl
    · exact ⟨hexpects, hsettled, hclear, rfl⟩
    · refine ⟨hexpects, hsettled, fun h => hclear ?_, q.closeGroup_alternative⟩
      rwa [IsClear, value_group_alternative] at h
  obtain ⟨hdexpects, -, hdclear, hdclose⟩ := halike hd
  have hdue {e : Parser} (he : e = q ∨ e = q.alternative)
      (hstep : q.step next = e.expecting .operand) : ∃ rest,
      (d.feed rest).parsed.expression ≠ ((q.step next).feed rest).parsed.expression := by
    obtain ⟨heexpects, hesettled, heclear, heclose⟩ := halike he
    obtain ⟨rest, hrest⟩ := exists_expression_ne_closeGroup heexpects heclear hresolve
    have habsent : (e.expecting .operand).step .rparen = e :=
      addOperand_none_of_isSettled hesettled heexpects
    refine ⟨.rparen :: rest, ?_⟩
    rw [hstep, feed_cons, feed_cons, habsent, step_rparen hdexpects, hdclose, ← heclose]
    exact hrest.symm
  cases next with
  | and => exact hdue (.inl rfl) (by rw [step, hexpects]; rfl)
  | or => exact hdue (.inr rfl) (by rw [step, hexpects]; rfl)
  | rparen =>
    rw [step_rparen hexpects, ← hdclose]
    exact exists_expression_ne_closeGroup hdexpects hdclear hresolve
  | field | keyword | quoted | not | lparen => cases hnext

end Distinguish

/-- Outside of all groups, with nothing read there, the token after a dangling operator has no
effect. -/
theorem expression_feed_of_isClear {p d : Parser} {next : Token} (hclear : p.IsClear)
    (hd : d = p.addOperand none ∨ d = (p.addOperand none).alternative)
    (hnext : next.leavesDangling = true) (rest : List Token) :
    (d.feed rest).parsed.expression
      = (((p.addOperand none).step next).feed rest).parsed.expression := by
  have hgroup := group_addOperand_none_of_isClear hclear
  have henclosing : (p.addOperand none).enclosing = [] := hclear.1
  generalize hq : p.addOperand none = q at *
  have hexpects : q.expecting .operator = q := by
    rw [← hq]
    rfl
  have halternative : q.alternative = q := by
    have hfresh : q.group.nextAlternative = q.group := by
      rw [hgroup]
      rfl
    rw [alternative, hfresh]
  have hdrop : d = q.expecting .operator := by
    rw [halternative, or_self] at hd
    rw [hd, hexpects]
  have hoperand := expression_feed_expecting hgroup henclosing rest
  rw [hdrop]
  cases next with
  | and =>
    have hstep : q.step .and = q.expecting .operand := by
      rw [← hexpects]
      rfl
    rw [hstep, hoperand]
  | or =>
    have hstep : q.step .or = q.alternative.expecting .operand := by
      rw [← hexpects]
      rfl
    rw [hstep, halternative, hoperand]
  | rparen =>
    have hdue : q.expects = .operator := by
      rw [← hexpects]
      rfl
    rw [step_rparen hdue, closeGroup_of_fresh hgroup henclosing]
  | field | keyword | quoted | not | lparen => cases hnext

end Parser

open MailSearch.Query.Parser

/-! ### Queries with a dangling operator -/

/-- Queries with the same words are told apart by their expressions. -/
theorem value_parseTokens_eq_iff {maxDepth : Int} {tokens tokens' : List Token}
    (h : tokens.filter Token.isWord = tokens'.filter Token.isWord) :
    (parseTokens maxDepth tokens).value = (parseTokens maxDepth tokens').value ↔
      ((start maxDepth).feed tokens).parsed.expression
        = ((start maxDepth).feed tokens').parsed.expression := by
  have hkeywords : (parseTokens maxDepth tokens).value.keywords
      = (parseTokens maxDepth tokens').value.keywords := by
    rw [keywords_parseTokens, keywords_parseTokens,
      ← filterMap_filter_isWord fun _ => Token.keyword?_of_not_isWord, h,
      filterMap_filter_isWord fun _ => Token.keyword?_of_not_isWord]
  have hfilters : (parseTokens maxDepth tokens).value.filters
      = (parseTokens maxDepth tokens').value.filters := by
    rw [filters_parseTokens, filters_parseTokens,
      ← filterMap_filter_isWord fun _ => Token.filter?_of_not_isWord, h,
      filterMap_filter_isWord fun _ => Token.filter?_of_not_isWord]
  constructor
  · intro heq
    exact congrArg Parsed.expression heq
  · intro hexpression
    have hparsed := congr (congr (congrArg Parsed.mk hkeywords) hfilters) hexpression
    exact hparsed

theorem filter_isWord_dangling {op : Token} (hop : op.isOperator = true)
    (before after : List Token) :
    (before ++ op :: after).filter Token.isWord = (before ++ after).filter Token.isWord := by
  simp [Token.isWord_of_isOperator hop]

/-- **Where an operator is due, the token after a dangling one is lost**, whichever it is: a closing
parenthesis there closes no group. -/
theorem value_dangling_next {maxDepth : Int} {before : List Token} {op next next' : Token}
    (hdue : ((start maxDepth).feed before).expects = .operator) (hop : op.isOperator = true)
    (hnext : next.leavesDangling = true) (hnext' : next'.leavesDangling = true)
    (rest : List Token) :
    (parseTokens maxDepth (before ++ op :: next :: rest)).value.expression
      = (parseTokens maxDepth (before ++ op :: next' :: rest)).value.expression := by
  have hsettled := isSettled_feed_start maxDepth before
  show ((start maxDepth).feed _).parsed.expression = ((start maxDepth).feed _).parsed.expression
  rw [feed_append, feed_append]
  generalize (start maxDepth).feed before = p at *
  have hlost : (p.feed [op, next]).core = (p.feed [op, next']).core := by
    cases op with
    | and => rw [feed_dangling_and hdue hnext, feed_dangling_and hdue hnext']
    | or => rw [feed_dangling_or hdue hsettled hnext, feed_dangling_or hdue hsettled hnext']
    | not => rw [core_feed_dangling_not p hnext, core_feed_dangling_not p hnext']
    | field | keyword | quoted | lparen | rparen => cases hop
  exact expression_feed_congr hlost rest

/-- **Which dangling operators may be deleted.** One with no filter after it may be. If filters can
come after it and the token that follows it is AND, OR or a closing parenthesis, a NOT may be
deleted where an operand is due, and any operator where the machine is outside of all groups and has
read nothing since it last started anew. All others have an effect on some queries. -/
theorem value_dangling_iff (maxDepth : Int) (before : List Token) {op : Token}
    (hop : op.isOperator = true) :
    (∀ after : List Token, after.filterMap Token.filter? = [] →
      (parseTokens maxDepth (before ++ op :: after)).value
        = (parseTokens maxDepth (before ++ after)).value) ∧
    ∀ next : Token, next.leavesDangling = true →
      ((∀ rest : List Token, (parseTokens maxDepth (before ++ op :: next :: rest)).value
          = (parseTokens maxDepth (before ++ next :: rest)).value) ↔
        (((start maxDepth).feed before).expects = .operand ∧ op = .not) ∨
          ((start maxDepth).feed before).IsClear) := by
  have hsettled := isSettled_feed_start maxDepth before
  have hwords (after : List Token) := filter_isWord_dangling hop before after
  refine ⟨fun after hafter => ?_, fun next hnext => ?_⟩
  · rw [value_parseTokens_eq_iff (hwords after), feed_append, feed_append, feed_cons,
      expression_feed_of_filter? hafter, expression_feed_of_filter? hafter]
    have hnone : op.filter? = none :=
      Token.filter?_of_not_isWord (Token.isWord_of_isOperator hop)
    exact expression_step_of_filter? _ hnone
  · have hrest (rest : List Token) :
        (parseTokens maxDepth (before ++ op :: next :: rest)).value
            = (parseTokens maxDepth (before ++ next :: rest)).value ↔
          ((((start maxDepth).feed before).feed [op, next]).feed rest).parsed.expression
            = ((((start maxDepth).feed before).feed [next]).feed rest).parsed.expression := by
      rw [value_parseTokens_eq_iff (hwords (next :: rest)), feed_append, feed_append]
      exact Iff.rfl
    simp only [hrest]
    generalize (start maxDepth).feed before = p at hsettled
    rcases core_feed_dangling hsettled hop hnext with ⟨hexpects, hnot, hsame⟩ |
      ⟨heffect, q, d, rfl, hd, hfeed⟩
    · constructor
      · intro _
        exact .inl ⟨hexpects, hnot⟩
      · intro _ rest
        exact expression_feed_congr hsame rest
    · -- up to what the machine does not go by, the two are `d` and the machine after the next token
      have hsides : (∀ rest, ((p.feed [op, next]).feed rest).parsed.expression
            = ((p.feed [next]).feed rest).parsed.expression) ↔
          ∀ rest, (d.feed rest).parsed.expression
            = (((p.addOperand none).step next).feed rest).parsed.expression := by
        rcases hfeed with ⟨hfull, hshort⟩ | ⟨hfull, hshort⟩
        · rw [hshort]
          simp only [expression_feed_congr hfull]
        · rw [hfull, hshort]
          simp only [eq_comm]
      rw [hsides]
      constructor
      · intro hall
        refine .inr (Decidable.byContradiction fun hclear => ?_)
        have hresolve : (resolve "from" "a").value = some (.text .sender .eq "a") := by
          decide +kernel
        have habsent : ¬ (p.addOperand none).IsClear := by
          rwa [isClear_addOperand_none]
        obtain ⟨rest, hne⟩ := exists_expression_ne_step rfl (fun _ => rfl) hd hnext habsent hresolve
        exact hne (hall rest)
      · rintro (hnot | hclear)
        · exact absurd hnot heffect
        · exact expression_feed_of_isClear hclear hd hnext

/-- In `(from:a OR from:b` an AND before `)` has an effect on some queries. At the start of a query
a NOT before `)` has none. -/
theorem value_dangling_iff_group :
    (¬ ∀ rest : List Token,
      (parseTokens defaultMaxDepth ([.lparen, .field "from" "a" "from:a", .or,
          .field "from" "b" "from:b"] ++ .and :: .rparen :: rest)).value
        = (parseTokens defaultMaxDepth ([.lparen, .field "from" "a" "from:a", .or,
          .field "from" "b" "from:b"] ++ .rparen :: rest)).value) ∧
    ∀ rest : List Token,
      (parseTokens defaultMaxDepth ([] ++ .not :: .rparen :: rest)).value
        = (parseTokens defaultMaxDepth ([] ++ .rparen :: rest)).value := by
  have hand : Token.and.isOperator = true := rfl
  have hnot : Token.not.isOperator = true := rfl
  constructor
  · rw [(value_dangling_iff defaultMaxDepth _ hand).2 .rparen rfl]
    decide +kernel
  · rw [(value_dangling_iff defaultMaxDepth [] hnot).2 .rparen rfl]
    exact .inl ⟨by decide, rfl⟩

/-- The AND in `(from:a OR from:b AND) from:c` takes the closing parenthesis with it, so that the
group goes on to the end. -/
theorem value_dangling_and_rparen :
    let before : List Token := [.lparen, .field "from" "a" "from:a", .or,
      .field "from" "b" "from:b"]
    let after : List Token := [.rparen, .field "from" "c" "from:c"]
    tokenize "(from:a OR from:b AND) from:c" = before ++ .and :: after ∧
      (parseTokens defaultMaxDepth (before ++ .and :: after)).events = [] ∧
      (parseTokens defaultMaxDepth (before ++ .and :: after)).value.filter
        = some "(from = \"a\" OR from = \"b\" AND from = \"c\")" ∧
      (parseTokens defaultMaxDepth (before ++ after)).value.filter
        = some "(from = \"a\" OR from = \"b\") AND from = \"c\"" := by
  intro before after
  refine ⟨?_, ?_, ?_, ?_⟩
  all_goals decide +kernel

end MailSearch.Query
