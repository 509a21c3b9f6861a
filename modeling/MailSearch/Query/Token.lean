/-!
# Query tokens

The words of the query language: terms with a field name, plain keywords, quoted phrases, the operator
words and the parentheses.
-/

namespace MailSearch.Query

inductive Token where
  /-- A term `name:value`. The value is free of quotes and escapes; `raw` is the term as written. -/
  | field (name value raw : String)
  /-- A word without further meaning. -/
  | keyword (text : String)
  /-- A phrase, without the double quotes around it. -/
  | quoted (text : String)
  | and
  | or
  | not
  | lparen
  | rparen
  deriving DecidableEq, Repr

end MailSearch.Query
