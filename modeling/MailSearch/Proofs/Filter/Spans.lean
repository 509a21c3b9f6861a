import MailSearch.Proofs.Filter.Leaves

/-!
# How far the connectives of an expression reach

An expression without negations is its leaves and the connectives between them, and all that is left
to say is how the connectives nest. `Expr.spans` says it for each connective by one number: how many
connectives there are in its left operand. Leaves and spans together determine the expression
(`Expr.IsPositive.eq_of_spans_eq`).
-/

namespace MailSearch.Expr

/-- An expression without negations. -/
inductive IsPositive : Expr → Prop
  | leaf (filter : Filter) : IsPositive (leaf filter)
  | join (connective : Connective) {left right : Expr} (hleft : IsPositive left)
      (hright : IsPositive right) : IsPositive (join connective left right)

/-- The connectives of an expression from right to left, each with the number of connectives in its
left operand. -/
def spans : Expr → List (Connective × Nat)
  | leaf _ => []
  | and left right => right.spans ++ (.and, left.spans.length) :: left.spans
  | or left right => right.spans ++ (.or, left.spans.length) :: left.spans
  | not operand => operand.spans

@[simp] theorem spans_join (connective : Connective) (left right : Expr) :
    (join connective left right).spans
      = right.spans ++ (connective, left.spans.length) :: left.spans := by
  cases connective <;> rfl

@[simp] theorem inorder_join (connective : Connective) (left right : Expr) :
    (join connective left right).inorder = left.inorder ++ right.inorder := by
  cases connective <;> rfl

/-- There is one connective less than there are leaves. -/
theorem IsPositive.length_inorder {e : Expr} (h : e.IsPositive) :
    e.inorder.length = e.spans.length + 1 := by
  induction h with
  | leaf filter => rfl
  | join connective hleft hright ihleft ihright =>
    simp only [inorder_join, spans_join, List.length_append, List.length_cons, ihleft, ihright]
    omega

/-- No connective reaches beyond the first one. -/
theorem IsPositive.span_le {e : Expr} (h : e.IsPositive) {after before : List (Connective × Nat)}
    {connective : Connective} {n : Nat} (hspans : e.spans = after ++ (connective, n) :: before) :
    n ≤ before.length := by
  induction h generalizing after before with
  | leaf filter => simp [spans] at hspans
  | @join root left right hleft hright ihleft ihright =>
    rw [spans_join, List.append_eq_append_iff] at hspans
    rcases hspans with ⟨mid, -, hrest⟩ | ⟨mid, hmid, hrest⟩
    · cases mid with
      | nil =>
        -- the connective is the root
        obtain ⟨hroot, rfl⟩ := List.cons.inj hrest
        exact Nat.le_of_eq (congrArg Prod.snd hroot).symm
      | cons first mid =>
        rw [List.cons_append] at hrest
        exact ihleft (List.cons.inj hrest).2
    · cases mid with
      | nil =>
        obtain ⟨hroot, rfl⟩ := List.cons.inj hrest
        exact Nat.le_of_eq (congrArg Prod.snd hroot)
      | cons first mid =>
        -- it is on the right of the root, so the root is one of those before it
        rw [List.cons_append] at hrest
        obtain ⟨rfl, rfl⟩ := List.cons.inj hrest
        have hle := ihright hmid
        rw [List.length_append]
        omega

/-- The right operand has no connective that reaches past a further one before it. -/
theorem IsPositive.spans_ne {e : Expr} (h : e.IsPositive)
    {after mid before : List (Connective × Nat)} {connective : Connective}
    {root : Connective × Nat} :
    e.spans ≠ after ++ (connective, (mid ++ root :: before).length) :: mid := by
  intro hspans
  have hle := h.span_le hspans
  rw [List.length_append, List.length_cons] at hle
  omega

/-- The spans of a join tell where its right operand starts. -/
theorem spans_right_eq {left left' right right' : Expr} {root root' : Connective}
    (hright : right.IsPositive) (hright' : right'.IsPositive)
    (hspans : (join root left right).spans = (join root' left' right').spans) :
    right.spans = right'.spans := by
  rw [spans_join, spans_join, List.append_eq_append_iff] at hspans
  rcases hspans with ⟨mid, hmid, hrest⟩ | ⟨mid, hmid, hrest⟩
  · cases mid with
    | nil => simpa using hmid.symm
    | cons first mid =>
      rw [List.cons_append] at hrest
      obtain ⟨rfl, hleft⟩ := List.cons.inj hrest
      rw [hleft] at hmid
      exact absurd hmid hright'.spans_ne
  · cases mid with
    | nil => simpa using hmid
    | cons first mid =>
      rw [List.cons_append] at hrest
      obtain ⟨rfl, hleft⟩ := List.cons.inj hrest
      rw [hleft] at hmid
      exact absurd hmid hright.spans_ne

/-- **Leaves and spans determine an expression without negations.** Induction on the first of two
expressions; the roots are the same connective, as it is the one that reaches to the first. -/
theorem IsPositive.eq_of_spans_eq {e e' : Expr} (h : e.IsPositive) (h' : e'.IsPositive)
    (hspans : e.spans = e'.spans) (hleaves : e.inorder = e'.inorder) : e = e' := by
  induction h generalizing e' with
  | leaf filter =>
    cases h' with
    | leaf filter' =>
      obtain rfl : filter = filter' := by simpa [inorder] using hleaves
      rfl
    | join => simp [spans] at hspans
  | @join root left right hleft hright ihleft ihright =>
    cases h' with
    | leaf filter' => simp [spans] at hspans
    | @join root' left' right' hleft' hright' =>
      have hrights := spans_right_eq hright hright' hspans
      rw [spans_join, spans_join, hrights, List.append_cancel_left_eq] at hspans
      obtain ⟨hroot, hlefts⟩ := List.cons.inj hspans
      obtain rfl : root = root' := congrArg Prod.fst hroot
      have hlength : left.inorder.length = left'.inorder.length := by
        rw [hleft.length_inorder, hleft'.length_inorder, hlefts]
      rw [inorder_join, inorder_join] at hleaves
      obtain ⟨hleftleaves, hrightleaves⟩ := List.append_inj hleaves hlength
      rw [ihleft hleft' hlefts hleftleaves, ihright hright' hrights hrightleaves]

end MailSearch.Expr
