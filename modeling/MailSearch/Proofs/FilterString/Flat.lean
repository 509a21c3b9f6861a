import MailSearch.Proofs.Filter.Leaves
import MailSearch.Proofs.FilterString.RoundTrip

/-!
# Filter strings of flat expressions

A list of filters is printed as one filter string with nothing but ANDs between them, whatever
expression the filters come from. For an expression that has no other node than ANDs this is its own
filter string (`Expr.IsFlat.renderAll_inorder`), and for no other: a filter string is read back, and
what is read back is flat exactly if the expression is (`Expr.renderAll_leaves_iff`). So the
parentheses of an OR or a NOT cannot come about by anything that the values of the filters hold.
-/

namespace MailSearch

/-! ### Lists of filters -/

namespace Filter

@[simp] theorem renderAll_singleton (filter : Filter) : renderAll [filter] = filter.render :=
  String.intercalate_singleton

/-- Lists that are not empty are printed one after the other. -/
theorem renderAll_append {before after : List Filter} (hbefore : before ≠ [])
    (hafter : after ≠ []) :
    renderAll (before ++ after) = renderAll before ++ " AND " ++ renderAll after := by
  have hbefore' : before.map render ≠ [] := mt List.map_eq_nil_iff.1 hbefore
  have hafter' : after.map render ≠ [] := mt List.map_eq_nil_iff.1 hafter
  rw [renderAll, List.map_append, String.intercalate_append_of_ne_nil hbefore' hafter']
  rfl

theorem render_ne_empty (filter : Filter) : filter.render ≠ "" := by
  simp [render]

theorem renderAll_ne_empty {filters : List Filter} (h : filters ≠ []) :
    renderAll filters ≠ "" := by
  cases filters with
  | nil => exact absurd rfl h
  | cons filter filters =>
    by_cases hrest : filters = []
    · rw [hrest, renderAll_singleton]
      exact filter.render_ne_empty
    · rw [← List.singleton_append, renderAll_append (List.cons_ne_nil _ _) hrest]
      simp

end Filter

namespace Expr

/-! ### Flat expressions -/

/-- An expression with no OR and no NOT in it. -/
inductive IsFlat : Expr → Prop
  | leaf (filter : Filter) : IsFlat (leaf filter)
  | and {left right : Expr} (hleft : IsFlat left) (hright : IsFlat right) : IsFlat (and left right)

/-- A flat expression is printed as its filters are. Induction on the expression. -/
theorem IsFlat.renderAll_inorder {e : Expr} (h : e.IsFlat) :
    Filter.renderAll e.inorder = e.render := by
  induction h with
  | leaf filter => rw [inorder, render_leaf, Filter.renderAll_singleton]
  | @and left right _ _ ihleft ihright =>
    rw [inorder, Filter.renderAll_append left.inorder_ne_nil right.inorder_ne_nil, ihleft, ihright,
      render_and_eq]

/-- Grouping ANDs in another way leaves a flat expression flat, and makes none flat. -/
theorem AndEquiv.isFlat_iff {e e' : Expr} (h : AndEquiv e e') : e.IsFlat ↔ e'.IsFlat := by
  induction h with
  | refl e => rfl
  | symm _ ih => exact ih.symm
  | trans _ _ ih ih' => exact ih.trans ih'
  | assoc left middle right =>
    constructor
    · rintro (_ | ⟨hleft, _ | ⟨hmiddle, hright⟩⟩)
      exact .and (.and hleft hmiddle) hright
    · rintro (_ | ⟨_ | ⟨hleft, hmiddle⟩, hright⟩)
      exact .and hleft (.and hmiddle hright)
  | and _ _ ihleft ihright =>
    constructor
    · rintro (_ | ⟨hleft, hright⟩)
      exact .and (ihleft.1 hleft) (ihright.1 hright)
    · rintro (_ | ⟨hleft, hright⟩)
      exact .and (ihleft.2 hleft) (ihright.2 hright)
  | or _ _ _ _ => exact ⟨nofun, nofun⟩
  | not _ _ => exact ⟨nofun, nofun⟩

/-- Expressions that are printed alike are both flat or neither of them is. -/
theorem isFlat_iff_of_render_eq {e e' : Expr} (h : e.render = e'.render) :
    e.IsFlat ↔ e'.IsFlat := by
  have hsame : e.leftAssoc = e'.leftAssoc := by
    have hread := read?_render_eq e
    rw [h, read?_render_eq e'] at hread
    exact (Option.some.inj hread).symm
  rw [(andEquiv_leftAssoc e).isFlat_iff, hsame, ← (andEquiv_leftAssoc e').isFlat_iff]

/-! ### What a list of filters asks for -/

/-- The flat expression with the filters of an expression. -/
def flatten : Expr → Expr
  | leaf filter => leaf filter
  | and left right => and left.flatten right.flatten
  | or left right => and left.flatten right.flatten
  | not operand => operand.flatten

theorem isFlat_flatten (e : Expr) : e.flatten.IsFlat := by
  induction e with
  | leaf filter => exact .leaf filter
  | and left right ihleft ihright => exact .and ihleft ihright
  | or left right ihleft ihright => exact .and ihleft ihright
  | not operand ih => exact ih

theorem inorder_flatten (e : Expr) : e.flatten.inorder = e.inorder := by
  induction e with
  | leaf filter => rfl
  | and left right ihleft ihright => rw [flatten, inorder, inorder, ihleft, ihright]
  | or left right ihleft ihright => rw [flatten, inorder, inorder, ihleft, ihright]
  | not operand ih => exact ih

/-- **The filters of an expression alone are printed as the expression is exactly if it is flat.**
The grouping of its ANDs makes no difference, nor do the texts that its filters compare with. -/
theorem renderAll_leaves_iff (e : Expr) : Filter.renderAll e.leaves = e.render ↔ e.IsFlat := by
  have hfilters : Filter.renderAll e.leaves = e.flatten.render := by
    rw [leaves_eq_inorder, ← inorder_flatten, e.isFlat_flatten.renderAll_inorder]
  constructor
  · intro h
    exact (isFlat_iff_of_render_eq (hfilters.symm.trans h)).1 e.isFlat_flatten
  · intro h
    rw [leaves_eq_inorder, h.renderAll_inorder]

end Expr

end MailSearch
