import MailSearch.Filter.Render

/-!
# Parsed queries

What a query comes to: the keywords that are left for full-text search, the filters in the order they
were read in, and the expression that joins them.
-/

namespace MailSearch.Query

structure Parsed where
  keywords : String := ""
  filters : List Filter := []
  expression : Option Expr := none
  deriving DecidableEq, Repr

namespace Parsed

/-- The filter string of a query, if it has filters. -/
def filter (parsed : Parsed) : Option String :=
  parsed.expression.map Expr.render

def toJson (parsed : Parsed) : Json :=
  .obj [
    ("keywords", .str parsed.keywords),
    ("filters", .arr (parsed.filters.map Filter.toJson)),
    ("expression", (parsed.expression.map Expr.toJson).getD .null),
    ("filter", .ofText? parsed.filter)]

end Parsed

end MailSearch.Query
