import MailSearch.Filter.Field
import MailSearch.Json.Basic
import MailSearch.Text.Quoted

/-!
# Filters

A filter compares one attribute of a message with a value. The value's type follows the attribute, and
the type `Filter` says so: a filter that exists is well typed. Filters that come from outside are
built by `Filter.check`, which reports the first thing wrong with them.

Main definitions: `Filter`, `Filter.check`, `Filter.ofNames`, `Filter.render`.
-/

namespace MailSearch

/-- A comparison of an attribute with a value of the attribute's own type. -/
inductive Filter where
  | text (field : TextField) (operator : Operator) (value : String)
  | hasAttachments (operator : Operator) (value : Bool)
  | timestamp (operator : Operator) (value : Int)
  deriving DecidableEq, Repr

namespace Filter

def field : Filter → Field
  | text field _ _ => .text field
  | hasAttachments _ _ => .hasAttachments
  | timestamp _ _ => .timestamp

def operator : Filter → Operator
  | text _ operator _ => operator
  | hasAttachments operator _ => operator
  | timestamp operator _ => operator

def value : Filter → Json
  | text _ _ value => .str value
  | hasAttachments _ value => .bool value
  | timestamp _ value => .int value

/-! ### Filters from outside -/

inductive Error where
  | unknownField (name : String)
  | unknownOperator (name : String)
  | wrongType (field : Field) (value : Json)

def Error.message : Error → String
  | unknownField name => Text.quoted name ++ " is not a valid FilterField"
  | unknownOperator name => Text.quoted name ++ " is not a valid FilterOperator"
  | wrongType field value =>
    value.typeName ++ " value is not valid for field " ++ Text.quoted field.name

/-- The filter on an attribute, if the value has the attribute's type. -/
def check (field : Field) (operator : Operator) (value : Json) : Except Error Filter :=
  match field, value with
  | .text field, .str value => .ok (text field operator value)
  | .hasAttachments, .bool value => .ok (hasAttachments operator value)
  | .timestamp, .int value => .ok (timestamp operator value)
  | field, value => .error (.wrongType field value)

theorem check_self (filter : Filter) :
    check filter.field filter.operator filter.value = .ok filter := by
  cases filter <;> rfl

/-- A value passes the check exactly if it is the value of a filter on that attribute. -/
theorem check_eq_ok_iff {field : Field} {operator : Operator} {value : Json} {filter : Filter} :
    check field operator value = .ok filter ↔
      filter.field = field ∧ filter.operator = operator ∧ filter.value = value := by
  constructor
  · intro h
    unfold check at h
    split at h <;> simp only [Except.ok.injEq, reduceCtorEq] at h <;> subst h <;> exact ⟨rfl, rfl, rfl⟩
  · rintro ⟨rfl, rfl, rfl⟩
    exact check_self filter

/-- The filter that a field name, an operator name and a value describe; they are checked in this
order. -/
def ofNames (field operator : String) (value : Json) : Except Error Filter :=
  match Field.ofName? field with
  | none => .error (.unknownField field)
  | some field' =>
    match Operator.ofName? operator with
    | none => .error (.unknownOperator operator)
    | some operator' => check field' operator' value

/-! ### Filter strings -/

/-- Puts a backslash before every backslash and every double quote. -/
def escape : List Char → List Char
  | [] => []
  | c :: rest => if c = '\\' ∨ c = '"' then '\\' :: c :: escape rest else c :: escape rest

/-- A text in double quotes, escaped. -/
def quote (text : String) : String :=
  String.ofList ('"' :: escape text.toList ++ ['"'])

def renderValue : Filter → String
  | text _ _ value => quote value
  | hasAttachments _ value => if value then "true" else "false"
  | timestamp _ value => toString value

/-- A filter as a filter string: attribute, symbol, value. -/
def render (filter : Filter) : String :=
  filter.field.name ++ " " ++ filter.operator.symbol ++ " " ++ filter.renderValue

/-- A sequence of filters as one filter string, all of them required; no filters give the empty
string. -/
def renderAll (filters : List Filter) : String :=
  " AND ".intercalate (filters.map render)

def toJson (filter : Filter) : Json :=
  .obj [("field", .str filter.field.name), ("operator", .str filter.operator.name),
    ("value", filter.value)]

end Filter

end MailSearch
