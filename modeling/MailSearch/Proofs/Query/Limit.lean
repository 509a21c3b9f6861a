import MailSearch.Proofs.Query.Collection
import MailSearch.Proofs.Query.Restart

/-!
# Queries that stay within the limit

The machine looks at its limit in two places: a NOT and an opening parenthesis compare the nesting
with it. Both warn when they find the limit reached. So a run without a warning has found no limit,
and goes the same way under any larger one (`Parser.feed_withLimit`). Nothing has to be shown about
how groups are left, also those left in the middle: the machine has no count of the nesting that it
would have to raise and lower again, but reads the nesting off what is open (`Parser.depth`).
-/

namespace MailSearch.Query

namespace Parser

/-- The machine with another limit on the nesting. -/
def withLimit (p : Parser) (limit : Int) : Parser :=
  { p with limit := limit }

@[simp] theorem limit_withLimit (p : Parser) (limit : Int) : (p.withLimit limit).limit = limit :=
  rfl

/-! ### A larger limit -/

/-- A NOT or a group below the limit is below a larger one. -/
theorem stepOperand_withLimit {p : Parser} {token : Token} {limit : Int} (hlimit : p.limit ≤ limit)
    (hwarned : (p.stepOperand token).warned = false) :
    (p.withLimit limit).stepOperand token = (p.stepOperand token).withLimit limit := by
  have hdepth : (p.withLimit limit).depth = p.depth := rfl
  cases token with
  | field name value raw =>
    simp only [stepOperand, addField]
    cases (resolve name value).value <;> rfl
  | keyword text => rfl
  | quoted text => rfl
  | and | or | rparen => rfl
  | not =>
    have hbelow : p.depth < p.limit := depth_lt_of_negate hwarned
    have hbelow' : (p.withLimit limit).depth < (p.withLimit limit).limit := by
      rw [hdepth, limit_withLimit]
      omega
    show (p.withLimit limit).negate = p.negate.withLimit limit
    rw [negate, negate, if_pos hbelow, if_pos hbelow']
    rfl
  | lparen =>
    have hbelow : p.depth < p.limit := depth_lt_of_openGroup hwarned
    have hbelow' : (p.withLimit limit).depth < (p.withLimit limit).limit := by
      rw [hdepth, limit_withLimit]
      omega
    show (p.withLimit limit).openGroup = p.openGroup.withLimit limit
    rw [openGroup, openGroup, if_pos hbelow, if_pos hbelow']
    rfl

theorem closeGroup_withLimit (p : Parser) (limit : Int) :
    (p.withLimit limit).closeGroup = p.closeGroup.withLimit limit := by
  have henclosing : (p.withLimit limit).enclosing = p.enclosing := rfl
  unfold closeGroup
  rw [henclosing]
  cases p.enclosing <;> rfl

/-- **A step that does not warn is the same under a larger limit.** -/
theorem step_withLimit {p : Parser} {token : Token} {limit : Int} (hlimit : p.limit ≤ limit)
    (hwarned : (p.step token).warned = false) :
    (p.withLimit limit).step token = (p.step token).withLimit limit := by
  have hsame : (p.withLimit limit).expects = p.expects := rfl
  unfold step at hwarned ⊢
  rw [hsame]
  cases hexpects : p.expects with
  | operand =>
    rw [hexpects] at hwarned
    exact stepOperand_withLimit hlimit hwarned
  | operator =>
    rw [hexpects] at hwarned
    cases token with
    | and | or => rfl
    | rparen => exact closeGroup_withLimit p limit
    | keyword text => rfl
    | quoted text => rfl
    | field name value raw => exact stepOperand_withLimit hlimit hwarned
    | not => exact stepOperand_withLimit hlimit hwarned
    | lparen => exact stepOperand_withLimit hlimit hwarned

/-- **A run that does not warn is the same under a larger limit.** Induction on the tokens. -/
theorem feed_withLimit {p : Parser} {tokens : List Token} {limit : Int} (hlimit : p.limit ≤ limit)
    (hwarned : (p.feed tokens).warned = false) :
    (p.withLimit limit).feed tokens = (p.feed tokens).withLimit limit := by
  induction tokens generalizing p with
  | nil => rfl
  | cons token tokens ih =>
    -- a warning at this step would still be there at the end
    have hstep := step_withLimit hlimit (warned_feed hwarned)
    rw [feed_cons, feed_cons, hstep]
    exact ih (by rw [limit_step]; exact hlimit) hwarned

/-- At the start, machines differ in their limit and in the warning that it was lowered. -/
theorem bare_start_withLimit (maxDepth otherDepth : Int) :
    (start otherDepth).bare = ((start maxDepth).withLimit (start otherDepth).limit).bare := by
  have hlimit : (start otherDepth).limit = min otherDepth maxDepthCeiling :=
    congrArg limit (bare_start otherDepth)
  show _ = (start maxDepth).bare.withLimit _
  rw [bare_start, bare_start, hlimit]
  rfl

/-- The expression does not depend on what was collected. -/
theorem expression_congr {p q : Parser} (h : p.bare = q.bare) :
    p.parsed.expression = q.parsed.expression := by
  have hfinished : p.bare.finished = q.bare.finished := congrArg finished h
  show Option.merge .and p.bare.finished p.bare.value
    = Option.merge .and q.bare.finished q.bare.value
  rw [hfinished, h]

/-! ### Asking again -/

/-- Asking for the query again reports nothing: there are no tokens left. -/
theorem events_answers_nil (p : Parser) (times : Nat) :
    (p.answers [] times).2.events = p.events := by
  induction times generalizing p with
  | zero => rfl
  | succ times ih => exact ih p.harvest.2

theorem WarnsOnce.answers {p : Parser} (h : p.WarnsOnce) (tokens : List Token) (times : Nat) :
    (p.answers tokens times).2.events.toList.countP Event.isNestingWarning ≤ 1 := by
  have hle {q : Parser} (hq : q.WarnsOnce) :
      q.events.toList.countP Event.isNestingWarning ≤ 1 := by
    rw [hq]
    exact Bool.toNat_le _
  cases times with
  | zero => exact hle h
  | succ times =>
    have hevents : (p.answers tokens (times + 1)).2.events = (p.feed tokens).events :=
      events_answers_nil (p.feed tokens).harvest.2 times
    rw [hevents]
    exact hle (h.feed tokens)

end Parser

/-! ### The limit of a query -/

/-- What is parsed without a warning of deep nesting is parsed so under any larger limit. -/
theorem value_parseTokens_of_le {tokens : List Token} {maxDepth largerDepth : Int}
    (hle : maxDepth ≤ largerDepth)
    (hnone : ∀ limit : Int, .nestingIgnored limit ∉ (parseTokens maxDepth tokens).events) :
    (parseTokens largerDepth tokens).value = (parseTokens maxDepth tokens).value ∧
      ∀ limit : Int, .nestingIgnored limit ∉ (parseTokens largerDepth tokens).events := by
  let p := Parser.start maxDepth
  let q := Parser.start largerDepth
  have hlimit : p.limit ≤ q.limit := by
    have hp : p.limit = min maxDepth maxDepthCeiling :=
      congrArg Parser.limit (Parser.bare_start maxDepth)
    have hq : q.limit = min largerDepth maxDepthCeiling :=
      congrArg Parser.limit (Parser.bare_start largerDepth)
    omega
  have hwarned : (p.feed tokens).warned = false :=
    ((Parser.WarnsOnce.start maxDepth).feed tokens).warned_eq_false hnone
  have hbare : (q.feed tokens).bare = ((p.feed tokens).withLimit q.limit).bare := by
    rw [← Parser.feed_withLimit hlimit hwarned]
    exact Parser.bare_feed_congr (Parser.bare_start_withLimit maxDepth largerDepth) tokens
  constructor
  · -- the words of a query do not depend on the limit, and the expression not on the words
    have hkeywords : (parseTokens largerDepth tokens).value.keywords
        = (parseTokens maxDepth tokens).value.keywords := by
      rw [keywords_parseTokens, keywords_parseTokens]
    have hfilters : (parseTokens largerDepth tokens).value.filters
        = (parseTokens maxDepth tokens).value.filters := by
      rw [filters_parseTokens, filters_parseTokens]
    have hexpression : (parseTokens largerDepth tokens).value.expression
        = (parseTokens maxDepth tokens).value.expression := by
      show (q.feed tokens).parsed.expression
        = ((p.feed tokens).withLimit q.limit).parsed.expression
      exact Parser.expression_congr hbare
    rw [Parsed.mk.injEq]
    exact ⟨hkeywords, hfilters, hexpression⟩
  · have hwarned' : (q.feed tokens).warned = false :=
      (congrArg Parser.warned hbare).trans hwarned
    exact ((Parser.WarnsOnce.start largerDepth).feed tokens).notMem_events hwarned'

/-- **The limit changes only queries that reach it.** If parsing a list of tokens under one limit
gives no warning of deep nesting, then parsing it under any larger limit gives the same keywords,
filters and expression, and no such warning either. Under every limit there is one such warning at
most, however much of the nesting is dropped and however often the parser is asked. -/
theorem parseTokens_of_le (tokens : List Token) :
    (∀ maxDepth largerDepth : Int, maxDepth ≤ largerDepth →
      (∀ limit : Int, .nestingIgnored limit ∉ (parseTokens maxDepth tokens).events) →
      (parseTokens largerDepth tokens).value = (parseTokens maxDepth tokens).value ∧
        ∀ limit : Int, .nestingIgnored limit ∉ (parseTokens largerDepth tokens).events) ∧
    (∀ maxDepth : Int,
      (parseTokens maxDepth tokens).events.countP Event.isNestingWarning ≤ 1) ∧
    ∀ (maxDepth : Int) (times : Nat),
      (parseRepeatedly maxDepth tokens times).events.countP Event.isNestingWarning ≤ 1 := by
  refine ⟨fun maxDepth largerDepth hle hnone => ?_, fun maxDepth => ?_, fun maxDepth times => ?_⟩
  · exact value_parseTokens_of_le hle hnone
  · exact (Parser.WarnsOnce.start maxDepth).answers tokens 1
  · exact (Parser.WarnsOnce.start maxDepth).answers tokens times

/-- `NOT (from:a)` nests two levels, so it is the same query under a limit of two and of five. -/
theorem parseTokens_two_le_five :
    (parseTokens 5 [.not, .lparen, .field "from" "a" "from:a", .rparen]).value
        = (parseTokens 2 [.not, .lparen, .field "from" "a" "from:a", .rparen]).value ∧
      ∀ limit : Int, .nestingIgnored limit ∉
        (parseTokens 5 [.not, .lparen, .field "from" "a" "from:a", .rparen]).events := by
  have hevents :
      (parseTokens 2 [.not, .lparen, .field "from" "a" "from:a", .rparen]).events = [] := by
    decide
  refine (parseTokens_of_le [.not, .lparen, .field "from" "a" "from:a", .rparen]).1 2 5
    (by decide) fun limit => ?_
  rw [hevents]
  exact List.not_mem_nil

end MailSearch.Query
