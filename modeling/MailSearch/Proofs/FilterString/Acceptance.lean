import MailSearch.Proofs.FilterString.RoundTrip

/-!
# Which records a filter string accepts

A filter string accepts a record if it is well formed and what it asks for holds of the record.
Strings that are glued together with AND accept what all of them accept, provided that each is
closed (`IsClosed`): well formed, with no OR outside of parentheses. A string that is glued on last
may be any that is well formed, and then the AND in front of it reaches its first OR only
(`spelledBy_intercalate_or`).
-/

namespace MailSearch.FilterString

/-- Whether a string is well formed and accepts a record that meets these comparisons. -/
def Accepts (meets : Comparison → Bool) (text : String) : Prop :=
  ∃ condition, Condition.read? text = some condition ∧ condition.holds meets = true

/-- Whether a string is well formed and has no OR outside of parentheses. -/
def IsClosed (text : String) : Prop :=
  ∃ chain : Chain, chain.SpelledBy text ∧ chain.isConjunction = true

variable {meets : Comparison → Bool} {s t : String}

theorem Chain.SpelledBy.accepts_iff {chain : Chain} (h : chain.SpelledBy s) :
    Accepts meets s ↔ chain.condition.holds meets = true := by
  have hread : Condition.read? s = some chain.condition :=
    Condition.read?_eq_some_iff.2 ⟨chain, h, rfl⟩
  rw [Accepts, hread]
  simp

/-! ### Gluing closed strings -/

theorem IsClosed.and (hs : IsClosed s) (ht : IsClosed t) : IsClosed (s ++ " AND " ++ t) := by
  obtain ⟨a, ha, haconj⟩ := hs
  obtain ⟨b, hb, hbconj⟩ := ht
  refine ⟨a.append .and b, ha.and hb, ?_⟩
  rw [Chain.isConjunction_append_and, haconj, hbconj]
  rfl

theorem IsClosed.accepts_and_iff (hs : IsClosed s) (ht : IsClosed t) :
    Accepts meets (s ++ " AND " ++ t) ↔ Accepts meets s ∧ Accepts meets t := by
  obtain ⟨a, ha, haconj⟩ := hs
  obtain ⟨b, hb, hbconj⟩ := ht
  rw [(ha.and hb).accepts_iff, ha.accepts_iff, hb.accepts_iff,
    Chain.holds_append_and meets haconj hbconj, Bool.and_eq_true]

/-- **Closed strings can be glued together with AND**, and are all required then. Induction on the
strings. -/
theorem isClosed_intercalate {parts : List String} (hne : parts ≠ [])
    (hclosed : ∀ part ∈ parts, IsClosed part) :
    IsClosed (" AND ".intercalate parts) ∧
      ∀ meets, Accepts meets (" AND ".intercalate parts) ↔ ∀ part ∈ parts, Accepts meets part := by
  induction parts with
  | nil => exact absurd rfl hne
  | cons first rest ih =>
    have hfirst : IsClosed first := hclosed first List.mem_cons_self
    cases rest with
    | nil =>
      rw [String.intercalate_singleton]
      exact ⟨hfirst, fun meets => by simp⟩
    | cons next rest =>
      obtain ⟨hrest, haccepts⟩ :=
        ih (List.cons_ne_nil _ _) fun part hpart => hclosed part (List.mem_cons_of_mem _ hpart)
      rw [String.intercalate_cons_cons]
      refine ⟨hfirst.and hrest, fun meets => ?_⟩
      simp only [hfirst.accepts_and_iff hrest, haccepts, List.forall_mem_cons]

/-- An AND in front of a string with an OR outside of parentheses reaches what is before the first
such OR, and leaves what is after it alone. -/
theorem spelledBy_and_or {first rest : Chain} (hs : IsClosed s)
    (hfirst : first.isConjunction = true) (ht : (first.append .or rest).SpelledBy t) :
    ∃ chain : Chain, chain.SpelledBy (s ++ " AND " ++ t) ∧ ∀ meets,
      chain.condition.holds meets = true ↔
        (Accepts meets s ∧ first.condition.holds meets = true) ∨
          rest.condition.holds meets = true := by
  obtain ⟨a, ha, haconj⟩ := hs
  refine ⟨_, ha.and ht, fun meets => ?_⟩
  rw [ha.accepts_iff, ← Chain.append_assoc, Chain.holds_append_or,
    Chain.holds_append_and meets haconj hfirst, Bool.or_eq_true, Bool.and_eq_true]

/-- **Closed strings in front of a string with an OR outside of parentheses** are required of the
records that it accepts for what is before the first such OR, and of no others. -/
theorem spelledBy_intercalate_or {own : List String} {first rest : Chain}
    (hown : ∀ part ∈ own, IsClosed part) (hfirst : first.isConjunction = true)
    (ht : (first.append .or rest).SpelledBy t) :
    ∃ chain : Chain, chain.SpelledBy (" AND ".intercalate (own ++ [t])) ∧ ∀ meets,
      chain.condition.holds meets = true ↔
        ((∀ part ∈ own, Accepts meets part) ∧ first.condition.holds meets = true) ∨
          rest.condition.holds meets = true := by
  by_cases hne : own = []
  · subst hne
    rw [List.nil_append, String.intercalate_singleton]
    refine ⟨_, ht, fun meets => ?_⟩
    rw [Chain.holds_append_or, Bool.or_eq_true]
    simp
  · obtain ⟨hclosed, haccepts⟩ := isClosed_intercalate hne hown
    obtain ⟨chain, hchain, hholds⟩ := spelledBy_and_or hclosed hfirst ht
    rw [String.intercalate_append_of_ne_nil hne (List.cons_ne_nil _ _),
      String.intercalate_singleton]
    refine ⟨chain, hchain, fun meets => ?_⟩
    rw [hholds, haccepts]

/-! ### Pieces that are closed -/

theorem isClosed_filter (filter : Filter) : IsClosed filter.render :=
  ⟨.single (.comparison filter.comparison), filter.lex_render, rfl⟩

theorem isClosed_expr (e : Expr) : IsClosed e.render :=
  ⟨e.chain, e.spelledBy_render, e.isConjunction_chain⟩

/-- Filters with ORs between them are well formed. -/
theorem spelledBy_anyOf {filters : List Filter} (hne : filters ≠ []) :
    ∃ chain : Chain, chain.SpelledBy (" OR ".intercalate (filters.map Filter.render)) := by
  induction filters with
  | nil => exact absurd rfl hne
  | cons filter rest ih =>
    have hfilter : (Chain.single (.comparison filter.comparison)).SpelledBy filter.render :=
      filter.lex_render
    cases rest with
    | nil =>
      rw [List.map_singleton, String.intercalate_singleton]
      exact ⟨_, hfilter⟩
    | cons next rest =>
      obtain ⟨chain, hchain⟩ := ih (List.cons_ne_nil _ _)
      rw [List.map_cons, List.map_cons, String.intercalate_cons_cons]
      exact ⟨_, hfilter.or hchain⟩

theorem isClosed_anyOf {filters : List Filter} (hne : filters ≠ []) :
    IsClosed ("(" ++ " OR ".intercalate (filters.map Filter.render) ++ ")") := by
  obtain ⟨chain, hchain⟩ := spelledBy_anyOf hne
  exact ⟨.single (.group chain), hchain.group, rfl⟩

/-! ### Expressions -/

theorem holds_condition_graft (a b : Expr) :
    (Expr.graft a b).condition.holds meets
      = (a.condition.holds meets && b.condition.holds meets) := by
  induction b with
  | and middle right ih _ =>
    simp only [Expr.graft, Expr.condition, Condition.holds, ih, Bool.and_assoc]
  | leaf filter => rfl
  | or left right _ _ => rfl
  | not operand _ => rfl

/-- How the ANDs of an expression are grouped makes no difference to a record. -/
theorem holds_condition_leftAssoc (e : Expr) :
    e.leftAssoc.condition.holds meets = e.condition.holds meets := by
  induction e with
  | leaf filter => rfl
  | and left right ihl ihr =>
    rw [Expr.leftAssoc, holds_condition_graft, ihl, ihr, Expr.condition, Condition.holds]
  | or left right ihl ihr =>
    simp only [Expr.leftAssoc, Expr.condition, Condition.holds, ihl, ihr]
  | not operand ih => simp only [Expr.leftAssoc, Expr.condition, Condition.holds, ih]

/-- **A filter string accepts the records that its expression holds of.** -/
theorem accepts_render_iff (e : Expr) :
    Accepts meets e.render ↔ e.condition.holds meets = true := by
  rw [e.spelledBy_render.accepts_iff, e.condition_append_chain.1, holds_condition_leftAssoc]

/-! ### Strings that say something -/

theorem Operand.lexemes_ne_nil (operand : Operand) : operand.lexemes ≠ [] := by
  cases operand with
  | comparison comparison => exact List.cons_ne_nil _ _
  | not operand => exact List.cons_ne_nil _ _
  | group chain => exact List.cons_ne_nil _ _

/-- The empty string is not well formed. -/
theorem Chain.SpelledBy.ne_empty {chain : Chain} (h : chain.SpelledBy s) : s ≠ "" := by
  rintro rfl
  have hempty : lex "" = some [] := by decide +kernel
  rw [SpelledBy, hempty] at h
  have hwords : chain.lexemes = [] := (Option.some.inj h).symm
  cases chain with
  | single operand => exact operand.lexemes_ne_nil hwords
  | join before connective last => simp [Chain.lexemes] at hwords

end MailSearch.FilterString
