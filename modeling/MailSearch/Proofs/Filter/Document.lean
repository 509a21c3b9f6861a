import MailSearch.Proofs.Filter.Rendering

/-!
# Expressions read back from documents

The document of an expression nests as deep as the expression is high: the operands of a chain stand
side by side, whatever the length of the chain. It says all there is to say about the expression
nevertheless. `Expr.ofJson?` joins the operands of a chain to the left and takes every other node as it
stands, and what it reads from the document of an expression is that expression (`Expr.ofJson?_toJson`).

A chain in a document has several operands, and the first one heads no chain of the same connective
(`Expr.exists_operands_join`): a chain on the left of its like is taken into it, and a chain on the right
stays an operand of its own.
-/

namespace MailSearch

/-- What a chain is called in a document. -/
def Connective.name : Connective → String
  | and => "and"
  | or => "or"

/-- The filter of a document. -/
def Filter.ofJson? : Json → Option Filter
  | .obj [("field", .str field), ("operator", .str operator), ("value", value)] =>
    (ofNames field operator value).toOption
  | _ => none

theorem Filter.ofJson?_toJson (filter : Filter) : ofJson? filter.toJson = some filter := by
  have hnames : ofNames filter.field.name filter.operator.name filter.value = .ok filter := by
    rw [ofNames, Field.ofName?_name, Operator.ofName?_name]
    exact filter.check_self
  show (ofNames filter.field.name filter.operator.name filter.value).toOption = some filter
  rw [hnames]
  rfl

namespace Expr

/-! ### Chains -/

/-- The chain of a list of operands, joined to the left. -/
def ofOperands? (connective : Connective) : List Expr → Option Expr
  | [] => none
  | first :: rest => some (rest.foldl (join connective) first)

/-- A further operand is joined to the chain of those before it. -/
theorem ofOperands?_concat {connective : Connective} {before : List Expr} {e : Expr}
    (h : ofOperands? connective before = some e) (operand : Expr) :
    ofOperands? connective (before ++ [operand]) = some (join connective e operand) := by
  cases before with
  | nil => cases h
  | cons first rest =>
    obtain rfl := Option.some.inj h
    simp only [List.cons_append, ofOperands?, List.foldl_append, List.foldl_cons, List.foldl_nil]

/-- Induction along the left spine of a chain. The spine ends in an expression that heads no chain of the
connective and is its only operand. -/
theorem spine_induction {motive : Expr → Prop} (connective : Connective)
    (single : ∀ e, operands connective e = [e] →
      (∀ left right, e ≠ join connective left right) → motive e)
    (join : ∀ left right, motive left → motive (join connective left right)) (e : Expr) :
    motive e := by
  cases connective with
  | and =>
    induction e with
    | and left right ih => exact join left right ih
    | leaf | or | not => exact single _ rfl nofun
  | or =>
    induction e with
    | or left right ih => exact join left right ih
    | leaf | and | not => exact single _ rfl nofun

/-- The operands of a chain make up the chain. -/
theorem ofOperands?_operands (connective : Connective) (e : Expr) :
    ofOperands? connective (operands connective e) = some e := by
  induction e using spine_induction connective with
  | single e hoperands _ => rw [hoperands]; rfl
  | join left right ih => rw [operands_join, ofOperands?_concat ih]

/-- A chain starts with the operand that its left spine ends in. -/
theorem exists_operands_eq_cons (connective : Connective) (e : Expr) :
    ∃ first rest, operands connective e = first :: rest ∧
      ∀ left right, first ≠ join connective left right := by
  induction e using spine_induction connective with
  | single e hoperands hsingle => exact ⟨e, [], hoperands, hsingle⟩
  | join left right ih =>
    obtain ⟨first, rest, hoperands, hfirst⟩ := ih
    exact ⟨first, rest ++ [right], by rw [operands_join, hoperands, List.cons_append], hfirst⟩

/-- A chain of a connective has two operands at least. -/
theorem exists_operands_join (connective : Connective) (left right : Expr) :
    ∃ first second rest,
      operands connective (join connective left right) = first :: second :: rest ∧
        ∀ left right, first ≠ join connective left right := by
  obtain ⟨first, rest, hoperands, hfirst⟩ := exists_operands_eq_cons connective left
  rw [operands_join, hoperands]
  cases rest with
  | nil => exact ⟨first, right, [], rfl, hfirst⟩
  | cons second rest => exact ⟨first, second, rest ++ [right], rfl, hfirst⟩

/-! ### Documents -/

theorem toJson_join (connective : Connective) (left right : Expr) :
    (join connective left right).toJson
      = .obj [("type", .str connective.name),
          ("operands", .arr ((operands connective (join connective left right)).map toJson))] := by
  cases connective with
  | and => exact toJson_and left right
  | or => exact toJson_or left right

/-- What the document of an expression is called. -/
def kind : Expr → String
  | leaf _ => "filter"
  | not _ => "not"
  | and _ _ => "and"
  | or _ _ => "or"

theorem member?_type_toJson (e : Expr) : e.toJson.member? "type" = some (.str e.kind) := by
  cases e with
  | leaf filter => rw [toJson_leaf]; rfl
  | not operand => rw [toJson_not]; rfl
  | and left right => rw [toJson_and]; rfl
  | or left right => rw [toJson_or]; rfl

/-- The name of a connective tells the chains of that connective from all else. -/
theorem kind_eq_name_iff {connective : Connective} {e : Expr} :
    e.kind = connective.name ↔ ∃ left right, e = join connective left right := by
  cases connective <;> cases e <;> simp [kind, Connective.name, join]

mutual

/-- The expression of a document. -/
def ofJson? : Json → Option Expr
  | .obj [("type", .str "filter"), ("filter", filter)] => (Filter.ofJson? filter).map leaf
  | .obj [("type", .str "not"), ("operand", operand)] => (ofJson? operand).map not
  | .obj [("type", .str "and"), ("operands", .arr operands)] =>
    (ofItems? operands).bind (ofOperands? .and)
  | .obj [("type", .str "or"), ("operands", .arr operands)] =>
    (ofItems? operands).bind (ofOperands? .or)
  | _ => none

/-- The expressions of a list of documents. -/
def ofItems? : List Json → Option (List Expr)
  | [] => some []
  | item :: rest => (ofJson? item).bind fun first => (ofItems? rest).map (first :: ·)

end

theorem ofItems?_map_toJson {es : List Expr} (h : ∀ e ∈ es, ofJson? e.toJson = some e) :
    ofItems? (es.map toJson) = some es := by
  induction es with
  | nil => rfl
  | cons e es ih =>
    obtain ⟨hfirst, hrest⟩ := List.forall_mem_cons.1 h
    simp only [List.map_cons, ofItems?, hfirst, ih hrest]
    rfl

/-- **The expression of its document is the expression.** Induction on the expression, where a chain
has all of its operands below it. -/
theorem ofJson?_toJson (e : Expr) : ofJson? e.toJson = some e := by
  fun_induction toJson e with
  | case1 filter =>
    show (Filter.ofJson? filter.toJson).map leaf = some (leaf filter)
    rw [filter.ofJson?_toJson]
    rfl
  | case2 operand ih =>
    show (ofJson? operand.toJson).map not = some (not operand)
    rw [ih]
    rfl
  | case3 left right ih =>
    rw [List.attach_map_val (f := toJson)]
    show (ofItems? ((operands .and (and left right)).map toJson)).bind (ofOperands? .and)
      = some (and left right)
    rw [ofItems?_map_toJson fun operand hoperand => ih ⟨operand, hoperand⟩]
    exact ofOperands?_operands .and (and left right)
  | case4 left right ih =>
    rw [List.attach_map_val (f := toJson)]
    show (ofItems? ((operands .or (or left right)).map toJson)).bind (ofOperands? .or)
      = some (or left right)
    rw [ofItems?_map_toJson fun operand hoperand => ih ⟨operand, hoperand⟩]
    exact ofOperands?_operands .or (or left right)

theorem toJson_inj {e f : Expr} : e.toJson = f.toJson ↔ e = f := by
  refine ⟨fun h => ?_, congrArg toJson⟩
  have hread := e.ofJson?_toJson
  rw [h, f.ofJson?_toJson] at hread
  exact (Option.some.inj hread).symm

/-! ### Nodes of a document -/

/-- The nodes of the document of an expression: the document itself and the nodes of its operands. -/
inductive IsNode (node : Json) : Json → Prop
  | top : IsNode node node
  | operand {document operand : Json} (hoperand : document.member? "operand" = some operand)
      (hnode : IsNode node operand) : IsNode node document
  | operands {document operand : Json} {operands : List Json}
      (hoperands : document.member? "operands" = some (.arr operands)) (hmem : operand ∈ operands)
      (hnode : IsNode node operand) : IsNode node document

/-- The operand in a document is the document of an expression. -/
theorem exists_operand_eq_toJson {e : Expr} {operand : Json}
    (h : e.toJson.member? "operand" = some operand) : ∃ inner : Expr, operand = inner.toJson := by
  cases e with
  | leaf filter => rw [toJson_leaf] at h; cases h
  | and left right => rw [toJson_and] at h; cases h
  | or left right => rw [toJson_or] at h; cases h
  | not inner =>
    rw [toJson_not] at h
    exact ⟨inner, (Option.some.inj h).symm⟩

theorem exists_operands_eq_map_toJson {e : Expr} {items : List Json}
    (h : e.toJson.member? "operands" = some (.arr items)) :
    ∃ inner : List Expr, items = inner.map toJson := by
  cases e with
  | leaf filter => rw [toJson_leaf] at h; cases h
  | not inner => rw [toJson_not] at h; cases h
  | and left right =>
    rw [toJson_and] at h
    exact ⟨_, (Json.arr.inj (Option.some.inj h)).symm⟩
  | or left right =>
    rw [toJson_or] at h
    exact ⟨_, (Json.arr.inj (Option.some.inj h)).symm⟩

/-- Every node of the document of an expression is the document of an expression. -/
theorem IsNode.exists_eq_toJson {node document : Json} (h : IsNode node document) {e : Expr}
    (hdocument : document = e.toJson) : ∃ inner : Expr, node = inner.toJson := by
  induction h generalizing e with
  | top => exact ⟨e, hdocument⟩
  | operand hoperand _ ih =>
    rw [hdocument] at hoperand
    obtain ⟨inner, hinner⟩ := exists_operand_eq_toJson hoperand
    exact ih hinner
  | operands hoperands hmem _ ih =>
    rw [hdocument] at hoperands
    obtain ⟨inner, rfl⟩ := exists_operands_eq_map_toJson hoperands
    obtain ⟨operand, -, hoperand⟩ := List.mem_map.1 hmem
    exact ih hoperand.symm

/-- **The document of an expression determines the expression.** Read back, with the operands of a chain
joined to the left, it gives the expression again. Every node of it that is a chain has two operands or
more, and the first of them is no chain of the same connective. -/
theorem ofJson?_toJson_chains (e : Expr) :
    ofJson? e.toJson = some e ∧
      ∀ node, IsNode node e.toJson → ∀ connective : Connective,
        node.member? "type" = some (.str connective.name) →
        ∃ first second rest, node.member? "operands" = some (.arr (first :: second :: rest)) ∧
          first.member? "type" ≠ some (.str connective.name) := by
  refine ⟨e.ofJson?_toJson, fun node hnode connective htype => ?_⟩
  obtain ⟨inner, rfl⟩ := hnode.exists_eq_toJson rfl
  rw [member?_type_toJson, Option.some.injEq, Json.str.injEq, kind_eq_name_iff] at htype
  obtain ⟨left, right, rfl⟩ := htype
  obtain ⟨first, second, rest, hoperands, hfirst⟩ := exists_operands_join connective left right
  refine ⟨first.toJson, second.toJson, rest.map toJson, ?_, fun hkind => ?_⟩
  · rw [toJson_join, hoperands]
    rfl
  · rw [member?_type_toJson, Option.some.injEq, Json.str.injEq, kind_eq_name_iff] at hkind
    obtain ⟨left', right', heq⟩ := hkind
    exact hfirst left' right' heq

end Expr

end MailSearch
