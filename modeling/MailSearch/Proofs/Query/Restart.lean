import MailSearch.Proofs.Query.Machine

/-!
# Where the query machine starts anew

A step of the machine changes the innermost group or moves to a group next to it, with one
exception: some tokens make the machine close all groups at once and start anew
(`Parser.startsAnew`). Two facts follow, and both are about what a step does not look at.

As long as the machine does not start anew, it does not see how many groups there are around those
that it opened itself: with more of them it does the same (`Parser.feed_within`). And it never sees
what it finished before it last started anew: it only adds to that (`Parser.exists_feed_finished`).
So where a machine starts anew, the rest of a query is read as a query of its own, and its parts are
joined to what was read before (`Parser.exists_expression_feed`).
-/

namespace MailSearch.Query.Parser

/-- Whether a token makes the machine close all groups and start anew. A keyword or a phrase does so
where an operator is due, and a closing parenthesis does so there outside of all groups. -/
def startsAnew (p : Parser) (token : Token) : Bool :=
  match p.expects, token with
  | .operator, .keyword _ | .operator, .quoted _ => true
  | .operator, .rparen => p.enclosing.isEmpty
  | _, _ => false

/-- The tokens before the first one that makes the machine start anew, and the tokens from there on.
-/
def splitAnew (p : Parser) : List Token → List Token × List Token
  | [] => ([], [])
  | token :: tokens =>
    if p.startsAnew token then ([], token :: tokens)
    else
      let (before, after) := (p.step token).splitAnew tokens
      (token :: before, after)

/-- The machine takes the tokens without starting anew. -/
def Continues (p : Parser) : List Token → Prop
  | [] => True
  | token :: tokens => p.startsAnew token = false ∧ (p.step token).Continues tokens

theorem splitAnew_append (p : Parser) (tokens : List Token) :
    (p.splitAnew tokens).1 ++ (p.splitAnew tokens).2 = tokens := by
  induction tokens generalizing p with
  | nil => rfl
  | cons token tokens ih =>
    unfold splitAnew
    split
    · rfl
    · exact congrArg (token :: ·) (ih (p.step token))

theorem continues_splitAnew (p : Parser) (tokens : List Token) :
    p.Continues (p.splitAnew tokens).1 := by
  induction tokens generalizing p with
  | nil => trivial
  | cons token tokens ih =>
    unfold splitAnew
    split
    · trivial
    · rename_i hanew
      exact ⟨Bool.eq_false_iff.2 hanew, ih (p.step token)⟩

theorem startsAnew_of_splitAnew {p : Parser} {tokens rest : List Token} {token : Token}
    (h : (p.splitAnew tokens).2 = token :: rest) :
    (p.feed (p.splitAnew tokens).1).startsAnew token = true := by
  induction tokens generalizing p with
  | nil => cases h
  | cons first tokens ih =>
    unfold splitAnew at h ⊢
    split at h
    · rename_i hanew
      cases h
      rw [if_pos hanew]
      exact hanew
    · rename_i hanew
      rw [if_neg hanew]
      exact ih h

theorem Continues.append {p : Parser} {before after : List Token} (hbefore : p.Continues before)
    (hafter : (p.feed before).Continues after) : p.Continues (before ++ after) := by
  induction before generalizing p with
  | nil => exact hafter
  | cons token before ih => exact ⟨hbefore.1, ih hbefore.2 hafter⟩

theorem startsAnew_field (p : Parser) (name value raw : String) :
    p.startsAnew (.field name value raw) = false := by
  unfold startsAnew
  cases p.expects <;> rfl

/-- A closing parenthesis makes the machine start anew outside of all groups only. -/
theorem startsAnew_rparen {p : Parser} (h : p.startsAnew .rparen = true) :
    p.expects = .operator ∧ p.enclosing = [] := by
  cases hexpects : p.expects with
  | operand => simp [startsAnew, hexpects] at h
  | operator => exact ⟨rfl, by simpa [startsAnew, hexpects] using h⟩

/-- To take such a token is to start anew and take it then. -/
theorem step_of_startsAnew {p : Parser} {token : Token} (h : p.startsAnew token = true) :
    p.step token = p.restart.step token := by
  cases hexpects : p.expects with
  | operand => simp [startsAnew, hexpects] at h
  | operator =>
    simp only [step, hexpects]
    cases token with
    | keyword text => rfl
    | quoted text => rfl
    | rparen =>
      -- outside of all groups the parenthesis counts as an absent operand of the next query
      show p.closeGroup = p.restart.addOperand none
      rw [closeGroup, (startsAnew_rparen h).2]
    | field | and | or | not | lparen => simp [startsAnew, hexpects] at h

/-! ### What a step keeps -/

/-- The limit is kept, a warning is not taken back, and what was finished is not changed. -/
structure Keeps (p q : Parser) : Prop where
  limit : q.limit = p.limit
  warned : p.warned = true → q.warned = true
  finished : q.finished = p.finished

theorem Keeps.warnNesting (p : Parser) : p.Keeps p.warnNesting := by
  unfold Parser.warnNesting
  split
  · exact ⟨rfl, id, rfl⟩
  · exact ⟨rfl, fun _ => rfl, rfl⟩

theorem Keeps.stepOperand (p : Parser) (token : Token) : p.Keeps (p.stepOperand token) := by
  cases token with
  | field name value raw =>
    simp only [Parser.stepOperand, Parser.addField]
    cases (resolve name value).value with
    | none => exact ⟨rfl, id, rfl⟩
    | some filter => exact ⟨rfl, id, rfl⟩
  | keyword text => exact ⟨rfl, id, rfl⟩
  | quoted text => exact ⟨rfl, id, rfl⟩
  | and | or | rparen => exact ⟨rfl, id, rfl⟩
  | not =>
    show p.Keeps p.negate
    unfold Parser.negate
    split
    · exact ⟨rfl, id, rfl⟩
    · exact ⟨(warnNesting p).limit, (warnNesting p).warned, (warnNesting p).finished⟩
  | lparen =>
    show p.Keeps p.openGroup
    unfold Parser.openGroup
    split
    · exact ⟨rfl, id, rfl⟩
    · exact ⟨(warnNesting p).limit, (warnNesting p).warned, (warnNesting p).finished⟩

theorem Keeps.step {p : Parser} {token : Token} (h : p.startsAnew token = false) :
    p.Keeps (p.step token) := by
  unfold Parser.step
  cases hexpects : p.expects with
  | operand => exact stepOperand p token
  | operator =>
    cases token with
    | and | or => exact ⟨rfl, id, rfl⟩
    | rparen =>
      -- there is a group to close, or the machine would start anew
      show p.Keeps p.closeGroup
      unfold Parser.closeGroup
      cases henclosing : p.enclosing with
      | nil => simp [startsAnew, hexpects, henclosing] at h
      | cons outer enclosing => exact ⟨rfl, id, rfl⟩
    | keyword text => simp [startsAnew, hexpects] at h
    | quoted text => simp [startsAnew, hexpects] at h
    | field name value raw => exact stepOperand p (.field name value raw)
    | not => exact stepOperand p .not
    | lparen => exact stepOperand p .lparen

theorem startsAnew_restart (p : Parser) (token : Token) : p.restart.startsAnew token = false := rfl

theorem limit_step (p : Parser) (token : Token) : (p.step token).limit = p.limit := by
  cases h : p.startsAnew token with
  | true => rw [step_of_startsAnew h, (Keeps.step (startsAnew_restart p token)).limit]; rfl
  | false => exact (Keeps.step h).limit

theorem warned_step {p : Parser} {token : Token} (h : (p.step token).warned = false) :
    p.warned = false := by
  cases hwarned : p.warned with
  | false => rfl
  | true =>
    have hstep : (p.step token).warned = true := by
      cases hanew : p.startsAnew token with
      | true =>
        rw [step_of_startsAnew hanew]
        exact (Keeps.step (startsAnew_restart p token)).warned hwarned
      | false => exact (Keeps.step hanew).warned hwarned
    rw [hstep] at h
    cases h

theorem limit_feed (p : Parser) (tokens : List Token) : (p.feed tokens).limit = p.limit := by
  induction tokens generalizing p with
  | nil => rfl
  | cons token tokens ih => rw [feed_cons, ih, limit_step]

theorem warned_feed {p : Parser} {tokens : List Token} (h : (p.feed tokens).warned = false) :
    p.warned = false := by
  induction tokens generalizing p with
  | nil => exact h
  | cons token tokens ih => exact warned_step (ih h)

theorem Continues.finished_feed {p : Parser} {tokens : List Token} (h : p.Continues tokens) :
    (p.feed tokens).finished = p.finished := by
  induction tokens generalizing p with
  | nil => rfl
  | cons token tokens ih => rw [feed_cons, ih h.2, (Keeps.step h.1).finished]

/-! ### Within the limit -/

theorem warnNesting_warned (p : Parser) : p.warnNesting.warned = true := by
  unfold warnNesting
  split
  · assumption
  · rfl

/-- A NOT that is not warned of is below the limit. -/
theorem depth_lt_of_negate {p : Parser} (h : p.negate.warned = false) : p.depth < p.limit := by
  unfold negate at h
  split at h
  · assumption
  · have hwarns : p.warnNesting.warned = false := h
    rw [warnNesting_warned] at hwarns
    cases hwarns

/-- A group that is not warned of is below the limit. -/
theorem depth_lt_of_openGroup {p : Parser} (h : p.openGroup.warned = false) :
    p.depth < p.limit := by
  unfold openGroup at h
  split at h
  · assumption
  · have hwarns : p.warnNesting.warned = false := h
    rw [warnNesting_warned] at hwarns
    cases hwarns

/-! ### More groups around -/

/-- The machine with further groups around those that it is in. -/
def within (p : Parser) (outer : List Group) : Parser :=
  { p with enclosing := p.enclosing ++ outer }

/-- With further groups around, a closing parenthesis closes one. -/
theorem startsAnew_within {p : Parser} {outer : List Group} {token : Token}
    (h : p.startsAnew token = true) (htoken : token ≠ .rparen) :
    (p.within outer).startsAnew token = true := by
  have hsame : (p.within outer).expects = p.expects := rfl
  unfold startsAnew at h ⊢
  rw [hsame]
  cases hexpects : p.expects with
  | operand => simp [hexpects] at h
  | operator =>
    cases token with
    | keyword text => rfl
    | quoted text => rfl
    | rparen => exact absurd rfl htoken
    | field | and | or | not | lparen => simp [hexpects] at h

/-- The further groups are closed last. -/
theorem value_within (p : Parser) (outer : List Group) :
    (p.within outer).value
      = outer.foldl (fun inner group => (group.addOperand inner).value) p.value := by
  simp only [value, within, List.foldl_append]

theorem depth_within_ge (p : Parser) (outer : List Group) : p.depth ≤ (p.within outer).depth := by
  have hnesting : Group.nesting p.enclosing ≤ Group.nesting (p.enclosing ++ outer) := by
    induction p.enclosing with
    | nil => exact Nat.zero_le _
    | cons group enclosing ih =>
      simp only [List.cons_append, Group.nesting]
      omega
  show p.group.negations + Group.nesting p.enclosing
    ≤ p.group.negations + Group.nesting (p.enclosing ++ outer)
  omega

/-- Further groups are not looked at by the start of an operand, if the nesting is within the limit
with them. -/
theorem stepOperand_within (p : Parser) (outer : List Group) (token : Token)
    (hwarned : ((p.within outer).stepOperand token).warned = false) :
    (p.within outer).stepOperand token = (p.stepOperand token).within outer := by
  have hdepth := depth_within_ge p outer
  have hlimit : (p.within outer).limit = p.limit := rfl
  cases token with
  | field name value raw =>
    simp only [stepOperand, addField]
    cases (resolve name value).value <;> rfl
  | keyword text => rfl
  | quoted text => rfl
  | and | or | rparen => rfl
  | not =>
    -- without the further groups the machine is no deeper
    have hbelow : (p.within outer).depth < (p.within outer).limit := depth_lt_of_negate hwarned
    show (p.within outer).negate = p.negate.within outer
    rw [negate, negate, if_pos hbelow, if_pos (by omega)]
    rfl
  | lparen =>
    have hbelow : (p.within outer).depth < (p.within outer).limit := depth_lt_of_openGroup hwarned
    show (p.within outer).openGroup = p.openGroup.within outer
    rw [openGroup, openGroup, if_pos hbelow, if_pos (by omega)]
    rfl

theorem step_within {p : Parser} {outer : List Group} {token : Token}
    (h : p.startsAnew token = false) (hwarned : ((p.within outer).step token).warned = false) :
    (p.within outer).step token = (p.step token).within outer := by
  have hsame : (p.within outer).expects = p.expects := rfl
  cases hexpects : p.expects with
  | operand =>
    simp only [step, hsame, hexpects] at hwarned ⊢
    exact stepOperand_within p outer token hwarned
  | operator =>
    simp only [step, hsame, hexpects] at hwarned ⊢
    cases token with
    | and | or => rfl
    | rparen =>
      -- the group that it closes is one of those the machine opened itself
      cases henclosing : p.enclosing with
      | nil => simp [startsAnew, hexpects, henclosing] at h
      | cons group enclosing => simp [stepOperator, closeGroup, within, henclosing, addOperand]
    | keyword text => simp [startsAnew, hexpects] at h
    | quoted text => simp [startsAnew, hexpects] at h
    | field name value raw => exact stepOperand_within p outer (.field name value raw) hwarned
    | not => exact stepOperand_within p outer .not hwarned
    | lparen => exact stepOperand_within p outer .lparen hwarned

/-- **Groups around make no difference** to a machine that does not start anew and stays within the
limit. Induction on the tokens. -/
theorem feed_within {p : Parser} {outer : List Group} {tokens : List Token}
    (h : p.Continues tokens) (hwarned : ((p.within outer).feed tokens).warned = false) :
    (p.within outer).feed tokens = (p.feed tokens).within outer := by
  induction tokens generalizing p with
  | nil => rfl
  | cons token tokens ih =>
    have hstep := step_within h.1 (warned_feed hwarned)
    rw [feed_cons, hstep] at hwarned
    rw [feed_cons, feed_cons, hstep, ih h.2 hwarned]

/-! ### What was finished before -/

/-- The machine with something else finished before it last started anew. -/
def withFinished (p : Parser) (e : Option Expr) : Parser :=
  { p with finished := e }

/-- Expressions joined by AND to what may be there already. -/
def conjoin (parts : List Expr) (e : Option Expr) : Option Expr :=
  parts.foldl (fun e part => Option.merge .and e (some part)) e

theorem conjoin_concat (parts : List Expr) (last : Expr) (e : Option Expr) :
    conjoin (parts ++ [last]) e = Option.merge .and (conjoin parts e) (some last) := by
  simp [conjoin]

theorem conjoin_eq_none {parts : List Expr} {e : Option Expr} (h : conjoin parts e = none) :
    parts = [] ∧ e = none := by
  rcases parts.eq_nil_or_concat with rfl | ⟨first, last, rfl⟩
  · exact ⟨rfl, h⟩
  · rw [List.concat_eq_append, conjoin_concat] at h
    cases hfirst : conjoin first e <;> simp [hfirst] at h

/-- What is no conjunction has been joined of one thing only. -/
theorem conjoin_eq_some {parts : List Expr} {e : Option Expr} {x : Expr}
    (h : conjoin parts e = some x) (hx : ∀ left right, x ≠ .and left right) :
    parts = [] ∧ e = some x ∨ parts = [x] ∧ e = none := by
  rcases parts.eq_nil_or_concat with rfl | ⟨parts, last, rfl⟩
  · exact Or.inl ⟨rfl, h⟩
  · rw [List.concat_eq_append, conjoin_concat] at h
    rw [List.concat_eq_append]
    cases hparts : conjoin parts e with
    | none =>
      obtain ⟨rfl, rfl⟩ := conjoin_eq_none hparts
      rw [hparts] at h
      simp only [Option.merge_none_left, Option.some.injEq] at h
      exact Or.inr ⟨by rw [h]; rfl, rfl⟩
    | some first =>
      rw [hparts] at h
      simp only [Option.merge_some_some, Option.some.injEq] at h
      exact absurd h.symm (hx first last)

/-- A negation that is the left side of a conjunction has been joined to one thing only. -/
theorem eq_singleton_of_conjoin_not {parts : List Expr} {x y e : Expr}
    (h : conjoin parts (some (.not y)) = some (.and (.not x) e)) : parts = [e] := by
  rcases parts.eq_nil_or_concat with rfl | ⟨first, last, rfl⟩
  · cases h
  · rw [List.concat_eq_append, conjoin_concat] at h
    cases hfirst : conjoin first (some (.not y)) with
    | none => exact absurd (conjoin_eq_none hfirst).2 nofun
    | some left =>
      rw [hfirst] at h
      obtain ⟨rfl, rfl⟩ : left = .not x ∧ last = e := by simpa using h
      rcases conjoin_eq_some hfirst nofun with ⟨rfl, -⟩ | ⟨-, hnone⟩
      · rfl
      · cases hnone

theorem warnNesting_finished (p : Parser) (e : Option Expr) :
    (p.withFinished e).warnNesting = p.warnNesting.withFinished e := by
  have hwarned : (p.withFinished e).warned = p.warned := rfl
  unfold warnNesting
  rw [hwarned]
  split <;> rfl

theorem stepOperand_finished (p : Parser) (e : Option Expr) (token : Token) :
    (p.withFinished e).stepOperand token = (p.stepOperand token).withFinished e := by
  have hdepth : (p.withFinished e).depth = p.depth := rfl
  have hlimit : (p.withFinished e).limit = p.limit := rfl
  cases token with
  | field name value raw =>
    simp only [stepOperand, addField]
    cases (resolve name value).value <;> rfl
  | keyword text => rfl
  | quoted text => rfl
  | and | or | rparen => rfl
  | not =>
    simp only [stepOperand, negate, hdepth, hlimit, warnNesting_finished]
    split <;> rfl
  | lparen =>
    simp only [stepOperand, openGroup, hdepth, hlimit, warnNesting_finished]
    split <;> rfl

/-- A step does not look at what was finished before, and adds at most one part to it. -/
theorem exists_step_finished (p : Parser) (token : Token) :
    ∃ parts : List Expr, ∀ e, (p.withFinished e).step token
      = (p.step token).withFinished (conjoin parts e) := by
  cases hanew : p.startsAnew token with
  | true =>
    -- what is finished here is the value of the open groups, if they have one
    refine ⟨p.value.toList, fun e => ?_⟩
    have hconjoin : conjoin p.value.toList e = Option.merge .and e p.value := by
      cases p.value <;> simp [conjoin]
    have hanew' : (p.withFinished e).startsAnew token = true := hanew
    rw [step_of_startsAnew hanew, step_of_startsAnew hanew', hconjoin]
    exact stepOperand_finished p.restart (Option.merge .and e p.value) token
  | false =>
    refine ⟨[], fun e => ?_⟩
    show (p.withFinished e).step token = (p.step token).withFinished e
    have hsame : (p.withFinished e).expects = p.expects := rfl
    cases hexpects : p.expects with
    | operand =>
      simp only [step, hsame, hexpects]
      exact stepOperand_finished p e token
    | operator =>
      simp only [step, hsame, hexpects]
      cases token with
      | and | or => rfl
      | rparen =>
        cases henclosing : p.enclosing with
        | nil => simp [startsAnew, hexpects, henclosing] at hanew
        | cons group enclosing =>
          have hsame' : (p.withFinished e).enclosing = p.enclosing := rfl
          simp only [stepOperator, closeGroup, hsame', henclosing]
          rfl
      | keyword text => simp [startsAnew, hexpects] at hanew
      | quoted text => simp [startsAnew, hexpects] at hanew
      | field name value raw => exact stepOperand_finished p e (.field name value raw)
      | not => exact stepOperand_finished p e .not
      | lparen => exact stepOperand_finished p e .lparen

/-- **What was finished before makes no difference**: a run adds the same parts to whatever was
finished. -/
theorem exists_feed_finished (p : Parser) (tokens : List Token) :
    ∃ parts : List Expr, ∀ e, (p.withFinished e).feed tokens
      = (p.feed tokens).withFinished (conjoin parts e) := by
  induction tokens generalizing p with
  | nil => exact ⟨[], fun e => rfl⟩
  | cons token tokens ih =>
    obtain ⟨first, hfirst⟩ := exists_step_finished p token
    obtain ⟨others, hothers⟩ := ih (p.step token)
    refine ⟨first ++ others, fun e => ?_⟩
    rw [feed_cons, hfirst, hothers, conjoin, conjoin, conjoin, List.foldl_append]
    rfl

/-! ### From a place where the machine starts anew -/

theorem start_fresh (maxDepth : Int) :
    (start maxDepth).group = {} ∧ (start maxDepth).enclosing = [] ∧
      (start maxDepth).expects = .operand ∧ (start maxDepth).finished = none := by
  unfold start
  split <;> exact ⟨rfl, rfl, rfl, rfl⟩

/-- A run that starts anew at its first token adds to what was read before, which it does not look
at, the parts that it makes of the tokens alone. -/
theorem exists_expression_feed (maxDepth : Int) (token : Token) (tokens : List Token) :
    ∃ parts : List Expr,
      (parseTokens maxDepth (token :: tokens)).value.expression = conjoin parts none ∧
      ∀ p : Parser, p.limit = (start maxDepth).limit → p.warned = false →
        p.startsAnew token = true →
        (p.feed (token :: tokens)).parsed.expression = conjoin parts p.parsed.expression := by
  obtain ⟨parts, hparts⟩ := exists_feed_finished (start maxDepth) (token :: tokens)
  -- the expression of the tokens alone is the last part
  have hlast (e : Option Expr) (q : Parser) :
      Option.merge .and (conjoin parts e) q.value = conjoin (parts ++ q.value.toList) e := by
    rw [conjoin, conjoin, List.foldl_append]
    cases q.value <;> simp
  refine ⟨parts ++ ((start maxDepth).feed (token :: tokens)).value.toList, ?_, ?_⟩
  · have hstart : (start maxDepth).withFinished none = start maxDepth := by
      rw [← (start_fresh maxDepth).2.2.2]
      rfl
    have hfeed := hparts none
    rw [hstart] at hfeed
    have hfinished : ((start maxDepth).feed (token :: tokens)).finished = conjoin parts none :=
      congrArg finished hfeed
    rw [← hlast, ← hfinished]
    rfl
  · -- past its restart a machine has finished and collected something, and is fresh otherwise
    intro p hlimit hwarned hanew
    have hrestart : p.restart.bare = ((start maxDepth).withFinished p.parsed.expression).bare := by
      have hstart : (start maxDepth).limit = min maxDepth maxDepthCeiling :=
        congrArg limit (bare_start maxDepth)
      show _ = (start maxDepth).bare.withFinished p.parsed.expression
      rw [bare_start, ← hstart, ← hlimit]
      simp [bare, restart, withFinished, parsed, hwarned]
    have hfeed : (p.feed (token :: tokens)).bare
        = (((start maxDepth).feed (token :: tokens)).withFinished
            (conjoin parts p.parsed.expression)).bare := by
      rw [← hparts, feed_cons, step_of_startsAnew hanew]
      exact bare_feed_congr hrestart (token :: tokens)
    have hfinished : (p.feed (token :: tokens)).finished = conjoin parts p.parsed.expression :=
      congrArg finished hfeed
    have hvalue : (p.feed (token :: tokens)).value
        = ((start maxDepth).feed (token :: tokens)).value := by
      rw [← value_bare, hfeed]
      rfl
    rw [← hlast, ← hfinished, ← hvalue]
    rfl

end MailSearch.Query.Parser
