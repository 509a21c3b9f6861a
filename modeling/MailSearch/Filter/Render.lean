import MailSearch.Filter.Expr

/-!
# Expressions as filter strings and documents

A filter string joins its parts by ` AND ` and ` OR `. A disjunction always stands in parentheses,
and so does the operand of a NOT; a conjunction never does. A chain of one connective is printed as
a whole, and so is a run of negations: the depth of recursion follows the groups of a query, not its
length.

Main definitions: `Expr.render`, `Expr.toJson`.
-/

namespace MailSearch.Expr

def repeated (n : Nat) (text : String) : String :=
  String.join (List.replicate n text)

/-- Joins a printed operand to the printed disjunction of those before it. -/
def joinOr (before operand : String) : String :=
  "(" ++ before ++ " OR " ++ operand ++ ")"

/-- A disjunction of printed operands, grouped to the left. -/
def renderOr : List String → String
  | [] => ""
  | first :: rest => rest.foldl joinOr first

def render (e : Expr) : String :=
  match e with
  | leaf filter => filter.render
  | not operand =>
    let depth := operand.negations + 1
    repeated depth "NOT (" ++ render operand.negated ++ repeated depth ")"
  | and left right =>
    " AND ".intercalate ((operands .and (and left right)).attach.map fun x => render x.1)
  | or left right =>
    renderOr ((operands .or (or left right)).attach.map fun x => render x.1)
  termination_by e.size
  decreasing_by
    · have hsmaller := size_negated_le operand
      simp only [size]; omega
    · exact size_lt_of_mem_operands_and x.2
    · exact size_lt_of_mem_operands_or x.2

/-- An expression as a document. The operands of a chain stand side by side. -/
def toJson (e : Expr) : Json :=
  match e with
  | leaf filter => .obj [("type", .str "filter"), ("filter", filter.toJson)]
  | not operand => .obj [("type", .str "not"), ("operand", toJson operand)]
  | and left right =>
    .obj [("type", .str "and"),
      ("operands", .arr ((operands .and (and left right)).attach.map fun x => toJson x.1))]
  | or left right =>
    .obj [("type", .str "or"),
      ("operands", .arr ((operands .or (or left right)).attach.map fun x => toJson x.1))]
  termination_by e.size
  decreasing_by
    · simp only [size]; omega
    · exact size_lt_of_mem_operands_and x.2
    · exact size_lt_of_mem_operands_or x.2

/-! ### Unfolding -/

theorem render_leaf (filter : Filter) : render (leaf filter) = filter.render := by
  rw [render]

theorem render_not (operand : Expr) :
    render (not operand) =
      repeated (operand.negations + 1) "NOT (" ++ render operand.negated ++
        repeated (operand.negations + 1) ")" := by
  rw [render]

theorem render_and (left right : Expr) :
    render (and left right) =
      " AND ".intercalate ((operands .and (and left right)).map render) := by
  rw [render, List.attach_map_val (f := render)]

theorem render_or (left right : Expr) :
    render (or left right) = renderOr ((operands .or (or left right)).map render) := by
  rw [render, List.attach_map_val (f := render)]

theorem toJson_leaf (filter : Filter) :
    toJson (leaf filter) = .obj [("type", .str "filter"), ("filter", filter.toJson)] := by
  rw [toJson]

theorem toJson_not (operand : Expr) :
    toJson (not operand) = .obj [("type", .str "not"), ("operand", operand.toJson)] := by
  rw [toJson]

theorem toJson_and (left right : Expr) :
    toJson (and left right) =
      .obj [("type", .str "and"),
        ("operands", .arr ((operands .and (and left right)).map toJson))] := by
  rw [toJson, List.attach_map_val (f := toJson)]

theorem toJson_or (left right : Expr) :
    toJson (or left right) =
      .obj [("type", .str "or"),
        ("operands", .arr ((operands .or (or left right)).map toJson))] := by
  rw [toJson, List.attach_map_val (f := toJson)]

end MailSearch.Expr
