import MailSearch.Proofs.Query.Collection
import MailSearch.Proofs.Query.Leaves
import MailSearch.Proofs.Query.Restart

/-!
# How far a NOT before a group reaches

A NOT before a group should cover what stands between the parentheses of the group, and nothing
else. The machine ends the group elsewhere at times: a closing parenthesis where an operand is due
is taken for an absent operand and closes nothing, and a keyword after an operand closes all groups
at once. So the NOT ends where a parser that reads the inside of the group and its closing
parenthesis alone starts anew (`beyondGroup`), or it does not end.

`expression_negatedGroup_iff` says when the NOT covers what it should: exactly if it ends, and no
filter is left between its end and the closing parenthesis, nor a NOT that waits for the next
filter.
-/

namespace MailSearch.Query

open MailSearch.Expr

/-! ### Balanced parentheses -/

/-- Whether the closing parentheses among the tokens close one opening parenthesis each, of those
before them and of a number of further ones, and leave none open. -/
def closesAll : Nat → List Token → Bool
  | opened, [] => opened == 0
  | opened, .lparen :: tokens => closesAll (opened + 1) tokens
  | 0, .rparen :: _ => false
  | opened + 1, .rparen :: tokens => closesAll opened tokens
  | opened, _ :: tokens => closesAll opened tokens

/-- Whether the parentheses among the tokens match. -/
def IsBalanced (tokens : List Token) : Prop :=
  closesAll 0 tokens = true

instance (tokens : List Token) : Decidable (IsBalanced tokens) :=
  inferInstanceAs (Decidable (closesAll 0 tokens = true))

/-- A NOT before a group, and a token after the group. -/
def negatedGroup (inner : List Token) (next : Token) : List Token :=
  .not :: .lparen :: (inner ++ [.rparen, next])

namespace Parser

/-- The start of an operand opens a group only if it is a parenthesis, and closes none. -/
theorem enclosing_stepOperand {p : Parser} {token : Token} (htoken : token ≠ .lparen) :
    (p.stepOperand token).enclosing = p.enclosing := by
  cases token with
  | field name value raw =>
    simp only [stepOperand, addField]
    cases (resolve name value).value <;> rfl
  | keyword text => rfl
  | quoted text => rfl
  | and | or | rparen => rfl
  | not =>
    simp only [stepOperand, negate, warnNesting]
    split
    · rfl
    · split <;> rfl
  | lparen => exact absurd rfl htoken

/-- Within the limit an opening parenthesis opens a group. -/
theorem length_enclosing_openGroup {p : Parser} (hwarned : p.openGroup.warned = false) :
    p.openGroup.enclosing.length = p.enclosing.length + 1 := by
  rw [openGroup, if_pos (depth_lt_of_openGroup hwarned)]
  rfl

/-- Only a parenthesis opens a group or closes one, unless the machine starts anew. -/
theorem enclosing_step {p : Parser} {token : Token} (h : p.startsAnew token = false)
    (hleft : token ≠ .lparen) (hright : token ≠ .rparen) :
    (p.step token).enclosing = p.enclosing := by
  unfold step
  cases hexpects : p.expects with
  | operand => exact enclosing_stepOperand hleft
  | operator =>
    cases token with
    | field name value raw => exact enclosing_stepOperand hleft
    | keyword text => simp [startsAnew, hexpects] at h
    | quoted text => simp [startsAnew, hexpects] at h
    | and | or => rfl
    | not => exact enclosing_stepOperand hleft
    | lparen => exact absurd rfl hleft
    | rparen => exact absurd rfl hright

/-- A step within the limit that does not start anew leaves as many groups open as parentheses, or
more. -/
theorem exists_closesAll_step {p : Parser} {opened : Nat} {token : Token} {tokens : List Token}
    (h : p.startsAnew token = false) (hwarned : (p.step token).warned = false)
    (hopened : opened ≤ p.enclosing.length) (hcloses : closesAll opened (token :: tokens) = true) :
    ∃ left ≤ (p.step token).enclosing.length, closesAll left tokens = true := by
  have hother (hleft : token ≠ .lparen) (hright : token ≠ .rparen) :
      opened ≤ (p.step token).enclosing.length := by
    rw [enclosing_step h hleft hright]
    exact hopened
  cases token with
  | field name value raw => exact ⟨opened, hother (by simp) (by simp), hcloses⟩
  | keyword text => exact ⟨opened, hother (by simp) (by simp), hcloses⟩
  | quoted text => exact ⟨opened, hother (by simp) (by simp), hcloses⟩
  | and | or | not => exact ⟨opened, hother (by simp) (by simp), hcloses⟩
  | lparen =>
    have hstep : p.step .lparen = p.openGroup := by
      unfold step
      cases p.expects <;> rfl
    rw [hstep] at hwarned ⊢
    exact ⟨opened + 1, by rw [length_enclosing_openGroup hwarned]; omega, hcloses⟩
  | rparen =>
    cases opened with
    | zero => cases hcloses
    | succ left =>
      refine ⟨left, ?_, hcloses⟩
      unfold step
      cases hexpects : p.expects with
      | operand =>
        -- the machine takes the parenthesis for an operand and leaves the group open
        show left ≤ p.enclosing.length
        omega
      | operator =>
        show left ≤ p.closeGroup.enclosing.length
        cases henclosing : p.enclosing with
        | nil => simp [henclosing] at hopened
        | cons outer enclosing =>
          rw [henclosing, List.length_cons] at hopened
          simp only [closeGroup, henclosing]
          show left ≤ enclosing.length
          omega

theorem exists_closesAll_feed {p : Parser} {opened : Nat} {before after : List Token}
    (h : p.Continues before) (hwarned : (p.feed before).warned = false)
    (hopened : opened ≤ p.enclosing.length) (hcloses : closesAll opened (before ++ after) = true) :
    ∃ left ≤ (p.feed before).enclosing.length, closesAll left after = true := by
  induction before generalizing p opened with
  | nil => exact ⟨opened, hopened, hcloses⟩
  | cons token before ih =>
    obtain ⟨left, hleft, hcloses⟩ := exists_closesAll_step h.1 (warned_feed hwarned) hopened hcloses
    exact ih h.2 hwarned hleft hcloses

/-! ### Into the group -/

/-- After a NOT and an opening parenthesis the machine is where it was at the start, in a group that
waits for the operand of the NOT. -/
theorem feed_negatedGroup {maxDepth : Int}
    (hwarned : ((start maxDepth).feed [.not, .lparen]).warned = false) :
    (start maxDepth).feed [.not, .lparen] = (start maxDepth).within [{ negations := 1 }] := by
  obtain ⟨hgroup, henclosing, hexpects, -⟩ := start_fresh maxDepth
  generalize start maxDepth = p at *
  have hnot : p.step .not = p.negate := by
    rw [step, hexpects]
    rfl
  have hfeed : p.feed [.not, .lparen] = p.negate.step .lparen := by
    rw [feed_cons, hnot]
    rfl
  rw [hfeed] at hwarned ⊢
  have hnegate : p.depth < p.limit := depth_lt_of_negate (warned_step hwarned)
  rw [negate, if_pos hnegate] at hwarned ⊢
  have hopen := depth_lt_of_openGroup hwarned
  simp only [step, stepOperand, openGroup]
  rw [if_pos hopen]
  simp [within, hgroup, henclosing, hexpects]

/-- As long as the machine does not start anew, it reads the group as if there were no NOT before
it. -/
theorem feed_negatedGroup_append {maxDepth : Int} {before tokens : List Token}
    (h : (start maxDepth).Continues before)
    (hwarned : ((start maxDepth).feed (.not :: .lparen :: (before ++ tokens))).warned = false) :
    (start maxDepth).feed (.not :: .lparen :: (before ++ tokens))
      = (((start maxDepth).feed before).within [{ negations := 1 }]).feed tokens := by
  have hsplit : (start maxDepth).feed (.not :: .lparen :: (before ++ tokens))
      = ((start maxDepth).feed [.not, .lparen]).feed (before ++ tokens) := rfl
  rw [hsplit] at hwarned ⊢
  have hgroup := feed_negatedGroup (warned_feed hwarned)
  rw [hgroup, feed_append] at hwarned ⊢
  rw [feed_within h (warned_feed hwarned)]

/-- What a parser reads of the group alone is within the limit if the whole is. -/
theorem warned_before {maxDepth : Int} {before tokens : List Token}
    (h : (start maxDepth).Continues before)
    (hwarned : ((start maxDepth).feed (.not :: .lparen :: (before ++ tokens))).warned = false) :
    ((start maxDepth).feed before).warned = false := by
  rw [feed_negatedGroup_append h hwarned] at hwarned
  show (((start maxDepth).feed before).within [{ negations := 1 }]).warned = false
  exact warned_feed hwarned

/-- The group that waits for the operand of a NOT is closed last. -/
theorem value_within_negation (p : Parser) :
    (p.within [{ negations := 1 }]).value = p.value.map .not := by
  rw [value_within, List.foldl_cons, List.foldl_nil]
  cases p.value with
  | none => rfl
  | some e => rfl

/-! ### Out of the group -/

theorem addField_of_resolve (p : Parser) {name value raw : String} {filter : Filter}
    (hresolve : (resolve name value).value = some filter) :
    (p.addField name value raw).parsed.expression
      = (p.addOperand (some (.leaf filter))).parsed.expression := by
  simp only [addField, hresolve]
  rfl

/-- A field term is an operand, also where an operator is due. -/
theorem expression_step_field (p : Parser) {name value raw : String} {filter : Filter}
    (hresolve : (resolve name value).value = some filter) :
    (p.step (.field name value raw)).parsed.expression
      = (p.addOperand (some (.leaf filter))).parsed.expression := by
  unfold step
  cases p.expects with
  | operand => exact addField_of_resolve p hresolve
  | operator => exact addField_of_resolve p hresolve

/-- A closing parenthesis is no operand: it does not change what has been read. -/
theorem expression_step_rparen (p : Parser) :
    (p.step .rparen).parsed.expression = p.parsed.expression := by
  unfold step
  cases p.expects with
  | operand =>
    show Option.merge Expr.and p.finished (p.addOperand none).value = p.parsed.expression
    rw [value_addOperand_none]
    rfl
  | operator =>
    show p.closeGroup.parsed.expression = p.parsed.expression
    unfold closeGroup
    cases henclosing : p.enclosing with
    | nil =>
      show Option.merge Expr.and p.restart.finished (p.restart.addOperand none).value
        = p.parsed.expression
      rw [value_addOperand_none]
      exact Option.merge_none_right
    | cons outer enclosing =>
      simp only [parsed, value, addOperand, henclosing, List.foldl_cons]

/-! ### An operand at the end -/

/-- The size of an expression that may be absent. -/
def sizeOf? (e : Option Expr) : Nat :=
  e.elim 0 size

/-- The size of the left side of a conjunction, and nothing for all else. -/
def leftSize : Option Expr → Nat
  | some (.and left _) => left.size
  | _ => 0

theorem leftSize_le (e : Option Expr) : leftSize e ≤ sizeOf? e := by
  cases e with
  | none => exact Nat.le_refl 0
  | some e =>
    cases e with
    | and left right =>
      show left.size ≤ left.size + right.size + 1
      omega
    | leaf | or | not => exact Nat.zero_le _

section

variable {old new : Option Expr}

/-- What comes in on the right, whatever joins it, leaves the left side within what was there. -/
theorem leftSize_merge (connective : Connective) (e : Option Expr)
    (h : leftSize new ≤ sizeOf? old) :
    leftSize (Option.merge (join connective) e new)
      ≤ sizeOf? (Option.merge (join connective) e old) := by
  cases e with
  | none => simpa using h
  | some first =>
    have hfirst : first.size ≤ sizeOf? (Option.merge (join connective) (some first) old) := by
      cases old with
      | none => exact Nat.le_refl _
      | some second =>
        cases connective with
        | and | or =>
          show first.size ≤ first.size + second.size + 1
          omega
    cases new with
    | none => exact Nat.le_trans (leftSize_le (some first)) hfirst
    | some second =>
      cases connective with
      | and => exact hfirst
      | or => exact Nat.zero_le _

theorem leftSize_addOperand (group : Group) (h : leftSize new ≤ sizeOf? old) :
    leftSize (group.addOperand new).value ≤ sizeOf? (group.addOperand old).value := by
  apply leftSize_merge .or
  apply leftSize_merge .and
  cases group.negations with
  | zero =>
    have hsame (e : Option Expr) : e.map (Expr.negate 0) = e := by
      cases e <;> rfl
    simpa only [hsame] using h
  | succ n =>
    -- under a negation it is no conjunction
    cases new with
    | none => exact Nat.zero_le _
    | some e => exact Nat.zero_le _

end

/-- An operand at the end of all that has been read comes in on the right: the left side of what it
makes is no larger than what was there. -/
theorem leftSize_addOperand_leaf (p : Parser) (filter : Filter) :
    leftSize (p.addOperand (some (.leaf filter))).parsed.expression
      ≤ sizeOf? p.parsed.expression := by
  have hfold (enclosing : List Group) {old new : Option Expr} (h : leftSize new ≤ sizeOf? old) :
      leftSize (enclosing.foldl (fun inner group => (group.addOperand inner).value) new)
        ≤ sizeOf? (enclosing.foldl (fun inner group => (group.addOperand inner).value) old) := by
    induction enclosing generalizing old new with
    | nil => exact h
    | cons group enclosing ih => exact ih (leftSize_addOperand group h)
  have hgroup : leftSize (p.group.addOperand (some (.leaf filter))).value
      ≤ sizeOf? (p.group.addOperand none).value :=
    leftSize_addOperand p.group (Nat.zero_le _)
  rw [Group.value_addOperand_none] at hgroup
  exact leftSize_merge .and p.finished (hfold p.enclosing hgroup)

/-! ### The three ways a group ends -/

/-- A NOT before a group that is still open covers all that has been read. -/
theorem expression_within_negation {p : Parser} (hfinished : p.finished = none) :
    (p.within [{ negations := 1 }]).parsed.expression = p.parsed.expression.map .not := by
  show Option.merge Expr.and p.finished (p.within [{ negations := 1 }]).value
    = (Option.merge Expr.and p.finished p.value).map .not
  rw [hfinished, value_within_negation, Option.merge_none_left, Option.merge_none_left]

/-- A NOT before a group that a closing parenthesis ends covers the group and nothing after it. -/
theorem expression_negation_closed {p : Parser} (hfinished : p.finished = none)
    (h : p.startsAnew .rparen = true) (operand : Option Expr) :
    (((p.within [{ negations := 1 }]).step .rparen).addOperand operand).parsed.expression
      = Option.merge .and (p.parsed.expression.map .not) operand := by
  obtain ⟨hexpects, henclosing⟩ := startsAnew_rparen h
  have hclose : (p.within [{ negations := 1 }]).step .rparen
      = { p with group := ({ negations := 1 } : Group).addOperand p.group.value } := by
    simp [step, within, hexpects, henclosing, stepOperator, closeGroup, addOperand]
  rw [hclose]
  simp only [parsed, value, addOperand, henclosing, hfinished, List.foldl_nil]
  cases p.group.value <;> cases operand <;>
    simp [Group.addOperand, Group.value, Expr.negate]

end Parser

open MailSearch.Query.Parser

/-- What is left of a group and its closing parenthesis where a parser that reads nothing else
starts anew. -/
def beyondGroup (maxDepth : Int) (inner : List Token) : List Token :=
  ((start maxDepth).splitAnew (inner ++ [.rparen])).2

/-- A balanced group is read to its closing parenthesis without starting anew, or up to a word where
the parser starts anew, or also past its closing parenthesis. -/
theorem beyondGroup_cases {maxDepth : Int} {inner : List Token} {next : Token}
    (hbalanced : IsBalanced inner)
    (hwarned : ((start maxDepth).feed (negatedGroup inner next)).warned = false) :
    (beyondGroup maxDepth inner = [] ∧ (start maxDepth).Continues (inner ++ [.rparen])) ∨
    (beyondGroup maxDepth inner = [.rparen] ∧ (start maxDepth).Continues inner ∧
      ((start maxDepth).feed inner).startsAnew .rparen = true) ∨
    ∃ before token rest, inner = before ++ token :: rest ∧
      beyondGroup maxDepth inner = token :: (rest ++ [.rparen]) ∧
      (start maxDepth).Continues before ∧
      ((start maxDepth).feed before).startsAnew token = true ∧ token ≠ .rparen := by
  have hsplit := splitAnew_append (start maxDepth) (inner ++ [.rparen])
  have hbefore := continues_splitAnew (start maxDepth) (inner ++ [.rparen])
  have hanew (token : Token) (rest : List Token)
      (h : ((start maxDepth).splitAnew (inner ++ [.rparen])).2 = token :: rest) :=
    startsAnew_of_splitAnew h
  unfold beyondGroup
  generalize ((start maxDepth).splitAnew (inner ++ [.rparen])).1 = before at hsplit hbefore hanew
  generalize ((start maxDepth).splitAnew (inner ++ [.rparen])).2 = after at hsplit hanew ⊢
  rcases after.eq_nil_or_concat with rfl | ⟨rest, last, rfl⟩
  · rw [List.append_nil] at hsplit
    rw [hsplit] at hbefore
    exact Or.inl ⟨rfl, hbefore⟩
  · -- the last token that is left is the closing parenthesis of the group
    rw [List.concat_eq_append] at hsplit hanew ⊢
    rw [← List.append_assoc] at hsplit
    obtain ⟨rfl, hlast⟩ := List.append_inj' hsplit rfl
    obtain rfl : last = .rparen := by simpa using hlast
    refine Or.inr ?_
    cases rest with
    | nil =>
      rw [List.append_nil]
      exact Or.inl ⟨rfl, hbefore, hanew .rparen [] rfl⟩
    | cons token rest =>
      have htoken := hanew token (rest ++ [.rparen]) rfl
      refine Or.inr ⟨before, token, rest, rfl, rfl, hbefore, htoken, ?_⟩
      rintro rfl
      -- the parenthesis would close a group that is open, but the parser is outside of all groups
      rw [negatedGroup, List.append_assoc] at hwarned
      obtain ⟨left, hleft, hcloses⟩ :=
        exists_closesAll_feed hbefore (warned_before hbefore hwarned) (Nat.zero_le _) hbalanced
      rw [(startsAnew_rparen htoken).2] at hleft
      obtain rfl : left = 0 := Nat.le_zero.1 hleft
      cases hcloses

section

variable {maxDepth : Int} {name value raw : String} {filter : Filter}

theorem finished_feed_start {tokens : List Token} (h : (start maxDepth).Continues tokens) :
    ((start maxDepth).feed tokens).finished = none := by
  rw [h.finished_feed, (start_fresh maxDepth).2.2.2]

/-- A closing parenthesis where nothing has been read is dropped. -/
theorem expression_rparen_field (hresolve : (resolve name value).value = some filter) :
    (parseTokens maxDepth [.rparen, .field name value raw]).value.expression
      = some (.leaf filter) := by
  obtain ⟨hgroup, henclosing, hexpects, hfinished⟩ := start_fresh maxDepth
  show (((start maxDepth).step .rparen).step (.field name value raw)).parsed.expression = _
  have hstep : (start maxDepth).step .rparen = (start maxDepth).addOperand none := by
    rw [step, hexpects]
    rfl
  rw [expression_step_field _ hresolve, hstep]
  simp [parsed, Parser.value, addOperand, hgroup, henclosing, hfinished, Group.addOperand,
    Group.value, Expr.negate]

/-- A NOT whose group does not end covers the field term too. -/
theorem expression_negatedGroup_unended {inner : List Token}
    (h : (start maxDepth).Continues (inner ++ [.rparen]))
    (hwarned : ((start maxDepth).feed
      (negatedGroup inner (.field name value raw))).warned = false) :
    (parseTokens maxDepth (negatedGroup inner (.field name value raw))).value.expression
      = (parseTokens maxDepth
          (inner ++ [.rparen, .field name value raw])).value.expression.map .not := by
  have hcontinues : (start maxDepth).Continues (inner ++ [.rparen, .field name value raw]) := by
    rw [List.append_cons]
    exact h.append ⟨startsAnew_field _ name value raw, trivial⟩
  have hrun : (start maxDepth).feed (negatedGroup inner (.field name value raw))
      = ((start maxDepth).feed (inner ++ [.rparen, .field name value raw])).within
          [{ negations := 1 }] := by
    have hall : negatedGroup inner (.field name value raw)
        = .not :: .lparen :: ((inner ++ [.rparen, .field name value raw]) ++ []) := by
      rw [List.append_nil]
      rfl
    rw [hall] at hwarned ⊢
    exact feed_negatedGroup_append hcontinues hwarned
  show Parsed.expression (Parser.parsed _) = _
  rw [hrun]
  exact expression_within_negation (finished_feed_start hcontinues)

/-- A NOT whose group ends at its closing parenthesis covers the group and nothing else. -/
theorem expression_negatedGroup_closed {inner : List Token}
    (hresolve : (resolve name value).value = some filter)
    (h : (start maxDepth).Continues inner)
    (hanew : ((start maxDepth).feed inner).startsAnew .rparen = true)
    (hwarned : ((start maxDepth).feed
      (negatedGroup inner (.field name value raw))).warned = false) :
    (parseTokens maxDepth (negatedGroup inner (.field name value raw))).value.expression
      = Option.merge .and ((parseTokens maxDepth inner).value.expression.map .not)
          (some (.leaf filter)) := by
  have hrun : (start maxDepth).feed (negatedGroup inner (.field name value raw))
      = (((start maxDepth).feed inner).within [{ negations := 1 }]).feed
          [.rparen, .field name value raw] :=
    feed_negatedGroup_append h hwarned
  show Parsed.expression (Parser.parsed _) = _
  rw [hrun, feed_cons, feed_cons, feed_nil, expression_step_field _ hresolve,
    expression_negation_closed (finished_feed_start h) hanew]
  rfl

/-- Where a word ends the group early, the NOT covers what was read before that, and the rest is
parsed on its own. -/
theorem exists_expression_negatedGroup_interrupted {before tokens : List Token} {token : Token}
    (h : (start maxDepth).Continues before)
    (hanew : ((start maxDepth).feed before).startsAnew token = true) (htoken : token ≠ .rparen)
    (hwarned : ((start maxDepth).feed
      (.not :: .lparen :: (before ++ token :: tokens))).warned = false) :
    ∃ parts : List Expr,
      (parseTokens maxDepth (token :: tokens)).value.expression = conjoin parts none ∧
      (parseTokens maxDepth
          (.not :: .lparen :: (before ++ token :: tokens))).value.expression
        = conjoin parts (((start maxDepth).feed before).parsed.expression.map .not) := by
  obtain ⟨parts, halone, hparts⟩ := exists_expression_feed maxDepth token tokens
  refine ⟨parts, halone, ?_⟩
  have hrun := feed_negatedGroup_append h hwarned
  rw [hrun] at hwarned
  show Parsed.expression (Parser.parsed _) = _
  rw [hrun, ← expression_within_negation (finished_feed_start h)]
  refine hparts _ (limit_feed _ before) (warned_feed hwarned) ?_
  exact startsAnew_within hanew htoken

/-- What stands between a group and the filter after it, if that filter makes up the whole
expression, has no expression. -/
theorem expression_eq_none_of_closed {tokens : List Token}
    (hresolve : (resolve name value).value = some filter)
    (h : (parseTokens maxDepth (tokens ++ [.rparen, .field name value raw])).value.expression
      = some (.leaf filter)) :
    (parseTokens maxDepth tokens).value.expression = none := by
  have hleaves := leavesOf_parseTokens maxDepth (tokens ++ [.rparen, .field name value raw])
  have hlast : [Token.rparen, .field name value raw].filterMap Token.filter? = [filter] := by
    simp [List.filterMap_cons, Token.filter?, hresolve]
  rw [h, leavesOf_some, inorder, filters_parseTokens, List.filterMap_append, hlast] at hleaves
  have hnone : tokens.filterMap Token.filter? = [] := List.self_eq_append_left.1 hleaves
  rw [← leavesOf_eq_nil_iff, leavesOf_parseTokens, filters_parseTokens, hnone]

/-- A closing parenthesis and a filter after it come in on the right of all that has been read. -/
theorem leftSize_expression_closed (tokens : List Token)
    (hresolve : (resolve name value).value = some filter) :
    leftSize (parseTokens maxDepth (tokens ++ [.rparen, .field name value raw])).value.expression
      ≤ sizeOf? (parseTokens maxDepth tokens).value.expression := by
  have hsize := leftSize_addOperand_leaf (((start maxDepth).feed tokens).step .rparen) filter
  rw [expression_step_rparen, ← expression_step_field _ hresolve] at hsize
  simpa only [parseTokens, feed_append, feed_cons, feed_nil] using hsize

/-- Where a word ends the group early, the expression is the right one if no filter but the last is
read after that word. -/
theorem interrupted_iff {tokens : List Token} {parts others : List Expr} {e : Option Expr}
    (hresolve : (resolve name value).value = some filter)
    (hparts : (parseTokens maxDepth (tokens ++ [.rparen, .field name value raw])).value.expression
      = conjoin parts none)
    (hothers : (parseTokens maxDepth tokens).value.expression = conjoin others none) :
    conjoin parts (e.map .not)
        = Option.merge .and ((conjoin others e).map .not) (some (.leaf filter)) ↔
      conjoin parts none = some (.leaf filter) := by
  constructor
  · intro h
    cases e with
    | none =>
      cases hinner : conjoin others none with
      | none => rwa [hinner] at h
      | some x =>
        -- the left side would be all that stands before the parenthesis, under one more NOT
        have hexpression :
            (parseTokens maxDepth (tokens ++ [.rparen, .field name value raw])).value.expression
              = some (.and (.not x) (.leaf filter)) := by
          rw [hinner] at h
          rw [hparts]
          exact h
        have hsize : leftSize (parseTokens maxDepth
            (tokens ++ [.rparen, .field name value raw])).value.expression
              ≤ sizeOf? (parseTokens maxDepth tokens).value.expression :=
          leftSize_expression_closed tokens hresolve
        rw [hexpression, hothers, hinner] at hsize
        exact absurd hsize (Nat.not_succ_le_self x.size)
    | some y =>
      cases hinner : conjoin others (some y) with
      | none => exact absurd (conjoin_eq_none hinner).2 nofun
      | some x =>
        have hnot : conjoin parts (some (.not y)) = some (.and (.not x) (.leaf filter)) := by
          rw [hinner] at h
          exact h
        rw [eq_singleton_of_conjoin_not hnot]
        rfl
  · intro h
    rcases conjoin_eq_some h nofun with ⟨-, hnone⟩ | ⟨rfl, -⟩
    · cases hnone
    · have hinner : (parseTokens maxDepth tokens).value.expression = none :=
        expression_eq_none_of_closed hresolve (hparts.trans h)
      obtain ⟨rfl, -⟩ := conjoin_eq_none (hothers.symm.trans hinner)
      rfl

/-- **How far the NOT reaches.** A NOT before a balanced group, and a filter after the group, come
to the negation of the group and the filter exactly if the parser that reads the group alone starts
anew at its closing parenthesis or before it, and finds from there on nothing but the filter. The
nesting is within the limit if there is no warning of it. -/
theorem expression_negatedGroup_iff {inner : List Token} (hbalanced : IsBalanced inner)
    (hresolve : (resolve name value).value = some filter)
    (hnesting : ∀ limit : Int, .nestingIgnored limit
      ∉ (parseTokens maxDepth (negatedGroup inner (.field name value raw))).events) :
    (parseTokens maxDepth (negatedGroup inner (.field name value raw))).value.expression
        = Option.merge .and ((parseTokens maxDepth inner).value.expression.map .not)
            (some (.leaf filter)) ↔
      beyondGroup maxDepth inner ≠ [] ∧
        (parseTokens maxDepth
            (beyondGroup maxDepth inner ++ [.field name value raw])).value.expression
          = some (.leaf filter) := by
  have hwarned : ((start maxDepth).feed
      (negatedGroup inner (.field name value raw))).warned = false :=
    ((WarnsOnce.start maxDepth).feed _).warned_eq_false hnesting
  rcases beyondGroup_cases hbalanced hwarned with
    ⟨hbeyond, hcontinues⟩ | ⟨hbeyond, hcontinues, hanew⟩ |
      ⟨before, token, rest, rfl, hbeyond, hbefore, hanew, htoken⟩
  · -- the NOT does not end: a NOT is no conjunction, and no filter either
    rw [hbeyond, expression_negatedGroup_unended hcontinues hwarned]
    have hnot (e inner : Option Expr) :
        e.map Expr.not ≠ Option.merge .and (inner.map .not) (some (.leaf filter)) := by
      cases e <;> cases inner <;> simp
    exact iff_of_false (hnot _ _) (fun h => h.1 rfl)
  · -- the group ends where it should, and only the filter comes after it
    rw [hbeyond, expression_negatedGroup_closed hresolve hcontinues hanew hwarned]
    exact iff_of_true rfl ⟨nofun, expression_rparen_field hresolve⟩
  · -- a word ends the group, with the NOT and without it, and the rest is read alike in both
    have hwhole : negatedGroup (before ++ token :: rest) (.field name value raw)
        = .not :: .lparen :: (before ++ token :: (rest ++ [.rparen, .field name value raw])) := by
      simp [negatedGroup]
    have halone : token :: (rest ++ [.rparen]) ++ [.field name value raw]
        = token :: rest ++ [.rparen, .field name value raw] := by
      simp
    rw [hwhole] at hwarned
    obtain ⟨parts, hparts, hrun⟩ :=
      exists_expression_negatedGroup_interrupted hbefore hanew htoken hwarned
    obtain ⟨others, hothers, hfeed⟩ := exists_expression_feed maxDepth token rest
    have hinner : (parseTokens maxDepth (before ++ token :: rest)).value.expression
        = conjoin others ((start maxDepth).feed before).parsed.expression := by
      rw [parseTokens, feed_append]
      exact hfeed _ (limit_feed _ before) (warned_before hbefore hwarned) hanew
    have hiff := interrupted_iff (e := ((start maxDepth).feed before).parsed.expression)
      hresolve hparts hothers
    rw [hwhole, hbeyond, halone, hrun, hinner, hiff, ← hparts]
    exact ⟨fun h => ⟨nofun, h⟩, And.right⟩

/-- `NOT (from:a OR NOT (to:b)) cc:c` nests four levels, and its group ends at its closing
parenthesis. -/
theorem expression_negatedGroup_nested :
    let inner : List Token := [.field "from" "a" "from:a", .or, .not, .lparen,
      .field "to" "b" "to:b", .rparen]
    let query := negatedGroup inner (.field "cc" "c" "cc:c")
    IsBalanced inner ∧
      (∀ limit : Int, .nestingIgnored limit ∉ (parseTokens 4 query).events) ∧
      (parseTokens 4 query).value.expression
        = Option.merge .and ((parseTokens 4 inner).value.expression.map .not)
            (some (.leaf (.text .copy .eq "c"))) := by
  intro inner query
  have hbalanced : IsBalanced inner := by decide
  have hevents : (parseTokens 4 query).events = [] := by decide +kernel
  have hnesting (limit : Int) : .nestingIgnored limit ∉ (parseTokens 4 query).events := by
    rw [hevents]
    exact List.not_mem_nil
  have hresolve : (resolve "cc" "c").value = some (.text .copy .eq "c") := by decide +kernel
  exact ⟨hbalanced, hnesting, (expression_negatedGroup_iff hbalanced hresolve hnesting).2
    ⟨by decide +kernel, by decide +kernel⟩⟩

/-- The closing parenthesis of an empty group is taken for the operand that is due in it, so the
group does not end there: in `NOT ( ) from:a` the NOT covers the filter after the group. -/
theorem expression_negatedGroup_nil :
    let query := negatedGroup [] (.field "from" "a" "from:a")
    tokenize "NOT ( ) from:a" = query ∧ IsBalanced [] ∧
      (resolve "from" "a").value = some (.text .sender .eq "a") ∧
      (parseTokens defaultMaxDepth query).events = [] ∧
      (parseTokens defaultMaxDepth query).value.expression
        = some (.not (.leaf (.text .sender .eq "a"))) ∧
      (parseTokens defaultMaxDepth query).value.expression
        ≠ Option.merge .and ((parseTokens defaultMaxDepth []).value.expression.map .not)
            (some (.leaf (.text .sender .eq "a"))) := by
  intro query
  refine ⟨?_, ?_, ?_, ?_, ?_, ?_⟩
  all_goals decide +kernel

end

end MailSearch.Query
