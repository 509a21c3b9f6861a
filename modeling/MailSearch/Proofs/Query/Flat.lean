import MailSearch.Proofs.FilterString.Flat
import MailSearch.Proofs.Query.Collection
import MailSearch.Proofs.Query.Leaves

/-!
# Queries without OR and NOT

Where no OR and no NOT is typed, all filters of a query are required: its filter string is the list
of its filters, whatever else is typed between them (`filter_parseTokens_of_isPlain`). Parentheses
and keywords may group the ANDs in one way or another, but a flat expression is printed without its
groups.

`Parser.IsFlat` is the invariant of the machine: nothing that it has read, in whichever group, has
an OR or a NOT in it.
-/

namespace MailSearch

namespace Expr

/-! ### Expressions that may be absent -/

theorem isFlat_merge_and {left right : Option Expr} (hleft : ∀ e ∈ left, e.IsFlat)
    (hright : ∀ e ∈ right, e.IsFlat) : ∀ e ∈ Option.merge and left right, e.IsFlat := by
  cases left with
  | none => simpa using hright
  | some left =>
    cases right with
    | none => simpa using hleft
    | some right =>
      rintro _ ⟨⟩
      exact .and (hleft left rfl) (hright right rfl)

/-- What is printed of a flat expression that may be absent are its leaves, if it has any. -/
theorem map_render_of_isFlat {e : Option Expr} (h : ∀ inner ∈ e, inner.IsFlat) :
    e.map render = if leavesOf e = [] then none else some (Filter.renderAll (leavesOf e)) := by
  cases e with
  | none => rfl
  | some e =>
    rw [leavesOf_some, if_neg e.inorder_ne_nil, (h e rfl).renderAll_inorder]
    rfl

end Expr

namespace Query

/-- A token that is no OR and no NOT. -/
def Token.IsPlain (token : Token) : Prop :=
  token ≠ .or ∧ token ≠ .not

/-! ### Groups -/

/-- Nothing has been read of a group but operands of AND without an OR or a NOT in them. -/
structure Group.IsFlat (group : Group) : Prop where
  disjunction : group.disjunction = none
  conjunction : ∀ e ∈ group.conjunction, e.IsFlat
  negations : group.negations = 0

namespace Group

variable {group : Group}

theorem IsFlat.fresh : IsFlat {} := ⟨rfl, nofun, rfl⟩

theorem IsFlat.addOperand (h : group.IsFlat) {operand : Option Expr}
    (hoperand : ∀ e ∈ operand, e.IsFlat) : (group.addOperand operand).IsFlat where
  disjunction := h.disjunction
  conjunction := by
    rw [Group.addOperand, h.negations]
    refine Expr.isFlat_merge_and h.conjunction fun e he => ?_
    -- no negation waits for the operand
    obtain ⟨inner, hinner, rfl⟩ := Option.map_eq_some_iff.1 he
    exact hoperand inner hinner
  negations := rfl

theorem IsFlat.value (h : group.IsFlat) : ∀ e ∈ group.value, e.IsFlat := by
  rw [Group.value, h.disjunction]
  simpa using h.conjunction

end Group

/-! ### The machine -/

namespace Parser

/-- Nothing that has been read has an OR or a NOT in it. -/
structure IsFlat (p : Parser) : Prop where
  group : p.group.IsFlat
  enclosing : ∀ group ∈ p.enclosing, group.IsFlat
  finished : ∀ e ∈ p.finished, e.IsFlat

variable {p : Parser}

theorem IsFlat.start (maxDepth : Int) : (start maxDepth).IsFlat := by
  unfold Parser.start
  split
  · exact ⟨.fresh, nofun, nofun⟩
  · exact ⟨.fresh, nofun, nofun⟩

theorem IsFlat.addOperand (h : p.IsFlat) {operand : Option Expr}
    (hoperand : ∀ e ∈ operand, e.IsFlat) : (p.addOperand operand).IsFlat :=
  ⟨h.group.addOperand hoperand, h.enclosing, h.finished⟩

theorem IsFlat.addOperand_none (h : p.IsFlat) : (p.addOperand none).IsFlat :=
  h.addOperand nofun

theorem IsFlat.addKeyword (h : p.IsFlat) (text : String) : (p.addKeyword text).IsFlat :=
  ⟨h.addOperand_none.group, h.enclosing, h.finished⟩

theorem IsFlat.addField (h : p.IsFlat) (name value raw : String) :
    (p.addField name value raw).IsFlat := by
  simp only [Parser.addField]
  cases (resolve name value).value with
  | none => exact ⟨h.addOperand_none.group, h.enclosing, h.finished⟩
  | some filter =>
    have hleaf : ∀ e ∈ some (Expr.leaf filter), e.IsFlat := by
      rintro _ ⟨⟩
      exact .leaf filter
    exact ⟨(h.addOperand hleaf).group, h.enclosing, h.finished⟩

/-- Closing groups one after the other. Induction on the groups, from the inside out. -/
theorem isFlat_foldl_addOperand {enclosing : List Group} {inner : Option Expr}
    (henclosing : ∀ group ∈ enclosing, group.IsFlat) (hinner : ∀ e ∈ inner, e.IsFlat) :
    ∀ e ∈ enclosing.foldl (fun inner group => (group.addOperand inner).value) inner,
      e.IsFlat := by
  induction enclosing generalizing inner with
  | nil => exact hinner
  | cons group enclosing ih =>
    obtain ⟨hgroup, henclosing⟩ := List.forall_mem_cons.1 henclosing
    exact ih henclosing (hgroup.addOperand hinner).value

theorem IsFlat.value (h : p.IsFlat) : ∀ e ∈ p.value, e.IsFlat :=
  isFlat_foldl_addOperand h.enclosing h.group.value

theorem IsFlat.restart (h : p.IsFlat) : p.restart.IsFlat :=
  ⟨.fresh, nofun, Expr.isFlat_merge_and h.finished h.value⟩

theorem IsFlat.openGroup (h : p.IsFlat) : p.openGroup.IsFlat := by
  unfold Parser.openGroup
  split
  · exact ⟨.fresh, List.forall_mem_cons.2 ⟨h.group, h.enclosing⟩, h.finished⟩
  · unfold Parser.warnNesting
    split
    · exact h.addOperand_none
    · exact ⟨h.addOperand_none.group, h.enclosing, h.finished⟩

theorem IsFlat.closeGroup (h : p.IsFlat) : p.closeGroup.IsFlat := by
  unfold Parser.closeGroup
  have henclosing := h.enclosing
  split
  · exact h.restart.addOperand_none
  · -- what was read of the group is an operand of the group around it
    rename_i outer enclosing hsplit
    rw [hsplit, List.forall_mem_cons] at henclosing
    exact ⟨henclosing.1.addOperand h.group.value, henclosing.2, h.finished⟩

theorem IsFlat.stepOperand (h : p.IsFlat) {token : Token} (htoken : token.IsPlain) :
    (p.stepOperand token).IsFlat := by
  cases token with
  | field name value raw => exact h.addField name value raw
  | keyword text => exact h.addKeyword text
  | quoted text => exact h.addKeyword _
  | and | or | rparen => exact h.addOperand_none
  | not => exact absurd rfl htoken.2
  | lparen => exact h.openGroup

/-- **A step keeps the machine flat**, unless it takes an OR or a NOT. -/
theorem IsFlat.step (h : p.IsFlat) {token : Token} (htoken : token.IsPlain) :
    (p.step token).IsFlat := by
  unfold Parser.step
  cases p.expects with
  | operand => exact h.stepOperand htoken
  | operator =>
    cases token with
    | and => exact ⟨h.group, h.enclosing, h.finished⟩
    | or => exact absurd rfl htoken.1
    | rparen => exact h.closeGroup
    | keyword text => exact h.restart.stepOperand htoken
    | quoted text => exact h.restart.stepOperand htoken
    | field name value raw => exact h.stepOperand htoken
    | not => exact h.stepOperand htoken
    | lparen => exact h.stepOperand htoken

/-- **A run keeps the machine flat.** Induction on the tokens. -/
theorem IsFlat.feed (h : p.IsFlat) {tokens : List Token}
    (htokens : ∀ token ∈ tokens, token.IsPlain) : (p.feed tokens).IsFlat := by
  induction tokens generalizing p with
  | nil => exact h
  | cons token tokens ih =>
    obtain ⟨htoken, htokens⟩ := List.forall_mem_cons.1 htokens
    exact ih (h.step htoken) htokens

end Parser

/-- **The filters of a query without OR and NOT are all required.** Its filter string is the list of
the filters that its tokens ask for, if any of them asks for one. -/
theorem filter_parseTokens_of_isPlain (maxDepth : Int) {tokens : List Token}
    (htokens : ∀ token ∈ tokens, token.IsPlain) :
    (parseTokens maxDepth tokens).value.filter =
      if tokens.filterMap Token.filter? = [] then none
      else some (Filter.renderAll (tokens.filterMap Token.filter?)) := by
  have hflat := (Parser.IsFlat.start maxDepth).feed htokens
  have hexpression : ∀ e ∈ (parseTokens maxDepth tokens).value.expression, e.IsFlat :=
    Expr.isFlat_merge_and hflat.finished hflat.value
  rw [Parsed.filter, Expr.map_render_of_isFlat hexpression, leavesOf_parseTokens,
    filters_parseTokens]

end Query

end MailSearch
