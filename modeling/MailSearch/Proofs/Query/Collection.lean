import MailSearch.Query.Parser

/-!
# What the query machine collects

Whatever the machine makes of the structure of a query, it loses none of its words. Each token has
one trace at most, a keyword or a filter, which it leaves in order, wherever the machine meets it
(`Parser.Collects`). The operators and the parentheses leave none, so neither they nor the limit on
the nesting change what is collected (`parseTokens_keeps_words`).
-/

namespace MailSearch.Query

namespace Token

/-- What a token leaves with the keywords: a word, a phrase in its quotes, or a term that asks for
nothing, as it is written. -/
def keyword? : Token → Option String
  | field name value raw => if (resolve name value).value.isSome then none else some raw
  | keyword text => some text
  | quoted text => some ("\"" ++ text ++ "\"")
  | and | or | not | lparen | rparen => none

/-- The filter that a token asks for. -/
def filter? : Token → Option Filter
  | field name value _ => (resolve name value).value
  | keyword _ | quoted _ | and | or | not | lparen | rparen => none

/-- Whether a token is a word of the query, and not one of those that only arrange the words: the
operators and the parentheses. -/
def isWord : Token → Bool
  | field .. | keyword _ | quoted _ => true
  | and | or | not | lparen | rparen => false

theorem keyword?_of_not_isWord {token : Token} (h : token.isWord = false) :
    token.keyword? = none := by
  cases token with
  | field name value raw => cases h
  | keyword text => cases h
  | quoted text => cases h
  | and | or | not | lparen | rparen => rfl

theorem filter?_of_not_isWord {token : Token} (h : token.isWord = false) :
    token.filter? = none := by
  cases token with
  | field name value raw => cases h
  | keyword text => cases h
  | quoted text => cases h
  | and | or | not | lparen | rparen => rfl

/-- A token that is left as a keyword asks for no filter. -/
theorem filter?_of_isSome_keyword? {token : Token} (h : token.keyword?.isSome = true) :
    token.filter? = none := by
  cases token with
  | field name value raw =>
    simp only [keyword?] at h
    split at h
    · cases h
    · rename_i hresolve
      show (resolve name value).value = none
      simpa using hresolve
  | keyword text => rfl
  | quoted text => rfl
  | and | or | not | lparen | rparen => rfl

end Token

namespace Parser

/-- On the way from `p` to `q` the machine has added the keywords and the filters of the tokens to
its own, in order, and no others. -/
structure Collects (p : Parser) (tokens : List Token) (q : Parser) : Prop where
  keywords : q.keywords.toList = p.keywords.toList ++ tokens.filterMap Token.keyword?
  filters : q.filters.toList = p.filters.toList ++ tokens.filterMap Token.filter?

namespace Collects

variable {p q r : Parser}

theorem trans {before after : List Token} (hbefore : p.Collects before q)
    (hafter : q.Collects after r) : p.Collects (before ++ after) r where
  keywords := by
    rw [hafter.keywords, hbefore.keywords, List.filterMap_append, List.append_assoc]
  filters := by
    rw [hafter.filters, hbefore.filters, List.filterMap_append, List.append_assoc]

/-- A step that leaves both collections alone has collected a token without a trace. -/
theorem of_eq {token : Token} (hkeyword : token.keyword? = none) (hfilter : token.filter? = none)
    (hkeywords : q.keywords = p.keywords) (hfilters : q.filters = p.filters) :
    p.Collects [token] q where
  keywords := by simp [hkeyword, hkeywords]
  filters := by simp [hfilter, hfilters]

theorem addField (p : Parser) (name value raw : String) :
    p.Collects [.field name value raw] (p.addField name value raw) := by
  cases h : (resolve name value).value with
  | none =>
    constructor
    · simp [Parser.addField, addKeyword, addOperand, Token.keyword?, h]
    · simp [Parser.addField, addKeyword, addOperand, Token.filter?, h]
  | some filter =>
    constructor
    · simp [Parser.addField, addOperand, Token.keyword?, h]
    · simp [Parser.addField, addOperand, Token.filter?, h]

theorem addKeyword (p : Parser) {text : String} (token : Token)
    (hkeyword : token.keyword? = some text) (hfilter : token.filter? = none) :
    p.Collects [token] (p.addKeyword text) where
  keywords := by simp [Parser.addKeyword, addOperand, hkeyword]
  filters := by simp [Parser.addKeyword, addOperand, hfilter]

theorem restart (p : Parser) : p.Collects [] p.restart where
  keywords := by simp [Parser.restart]
  filters := by simp [Parser.restart]

theorem negate (p : Parser) : p.Collects [.not] p.negate := by
  unfold Parser.negate
  split
  · exact of_eq rfl rfl rfl rfl
  · unfold warnNesting
    split
    · exact of_eq rfl rfl rfl rfl
    · exact of_eq rfl rfl rfl rfl

theorem openGroup (p : Parser) : p.Collects [.lparen] p.openGroup := by
  unfold Parser.openGroup
  split
  · exact of_eq rfl rfl rfl rfl
  · unfold warnNesting
    split
    · exact of_eq rfl rfl rfl rfl
    · exact of_eq rfl rfl rfl rfl

theorem closeGroup (p : Parser) : p.Collects [.rparen] p.closeGroup := by
  unfold Parser.closeGroup
  split
  · exact of_eq rfl rfl rfl rfl
  · exact of_eq rfl rfl rfl rfl

theorem stepOperand (p : Parser) (token : Token) : p.Collects [token] (p.stepOperand token) := by
  cases token with
  | field name value raw => exact addField p name value raw
  | keyword text => exact addKeyword p (.keyword text) rfl rfl
  | quoted text => exact addKeyword p (.quoted text) rfl rfl
  | and => exact of_eq rfl rfl rfl rfl
  | or => exact of_eq rfl rfl rfl rfl
  | rparen => exact of_eq rfl rfl rfl rfl
  | not => exact negate p
  | lparen => exact openGroup p

/-- **A step collects its token**, whatever was due. -/
theorem step (p : Parser) (token : Token) : p.Collects [token] (p.step token) := by
  unfold Parser.step
  cases p.expects with
  | operand => exact stepOperand p token
  | operator =>
    cases token with
    | and => exact of_eq rfl rfl rfl rfl
    | or => exact of_eq rfl rfl rfl rfl
    | rparen => exact closeGroup p
    | keyword text => exact (restart p).trans (stepOperand p.restart (.keyword text))
    | quoted text => exact (restart p).trans (stepOperand p.restart (.quoted text))
    | field name value raw => exact stepOperand p (.field name value raw)
    | not => exact stepOperand p .not
    | lparen => exact stepOperand p .lparen

/-- **A run collects its tokens.** Induction on the tokens. -/
theorem feed (p : Parser) (tokens : List Token) : p.Collects tokens (p.feed tokens) := by
  induction tokens generalizing p with
  | nil => exact ⟨by simp, by simp⟩
  | cons token tokens ih =>
    rw [feed_cons]
    exact (step p token).trans (ih (p.step token))

end Collects

theorem start_keywords (maxDepth : Int) : (start maxDepth).keywords = #[] := by
  unfold start
  split <;> rfl

theorem start_filters (maxDepth : Int) : (start maxDepth).filters = #[] := by
  unfold start
  split <;> rfl

/-! ### Asking again -/

/-- After the query has been handed over, the machine has the words of the query left and no
expression. -/
theorem parsed_harvest (p : Parser) :
    p.harvest.2.parsed = { p.parsed with expression := none } := rfl

/-- Asked again, the machine has no token left to take, and repeats the words of the query. -/
theorem answers_harvest (p : Parser) (times : Nat) :
    (p.harvest.2.answers [] times).1
      = List.replicate times { p.parsed with expression := none } := by
  induction times generalizing p with
  | zero => rfl
  | succ times ih =>
    have hfirst : (p.harvest.2.feed []).harvest.1 = { p.parsed with expression := none } :=
      parsed_harvest p
    have hothers : ((p.harvest.2.feed []).harvest.2.answers [] times).1
        = List.replicate times { p.parsed with expression := none } := ih p.harvest.2
    rw [List.replicate_succ, ← hothers, ← hfirst]
    rfl

end Parser

/-! ### The words of a query -/

theorem keywords_parseTokens (maxDepth : Int) (tokens : List Token) :
    (parseTokens maxDepth tokens).value.keywords
      = " ".intercalate (tokens.filterMap Token.keyword?) := by
  have hfeed := (Parser.Collects.feed (Parser.start maxDepth) tokens).keywords
  rw [Parser.start_keywords, List.nil_append] at hfeed
  rw [← hfeed]
  rfl

theorem filters_parseTokens (maxDepth : Int) (tokens : List Token) :
    (parseTokens maxDepth tokens).value.filters = tokens.filterMap Token.filter? := by
  have hfeed := (Parser.Collects.feed (Parser.start maxDepth) tokens).filters
  rw [Parser.start_filters, List.nil_append] at hfeed
  exact hfeed

/-- Tokens that leave no trace may be left out. -/
theorem filterMap_filter_isWord {α : Type} {trace? : Token → Option α}
    (h : ∀ token : Token, token.isWord = false → trace? token = none) (tokens : List Token) :
    (tokens.filter Token.isWord).filterMap trace? = tokens.filterMap trace? := by
  induction tokens with
  | nil => rfl
  | cons token tokens ih =>
    cases hword : token.isWord with
    | true => simp [hword, ih, List.filterMap_cons]
    | false => simp [hword, ih, h token hword]

/-- **No word of a query is lost, doubled or moved.** The keywords are, in the order of the tokens,
the words, the phrases in their quotes and the terms that ask for nothing as they are written; the
filters are, in that order, those that the other terms ask for. So neither depends on the limit on
the nesting, nor on the operators and parentheses between the words. All tokens are taken at once: a
parser that is asked again finds none left, and answers with the same words and no expression. -/
theorem parseTokens_keeps_words (maxDepth : Int) (tokens : List Token) :
    let parsed := (parseTokens maxDepth tokens).value
    (parsed.keywords = " ".intercalate (tokens.filterMap Token.keyword?) ∧
      parsed.filters = tokens.filterMap Token.filter?) ∧
    (∀ otherDepth : Int,
      (parseTokens otherDepth tokens).value.keywords = parsed.keywords ∧
      (parseTokens otherDepth tokens).value.filters = parsed.filters) ∧
    ((parseTokens maxDepth (tokens.filter Token.isWord)).value.keywords = parsed.keywords ∧
      (parseTokens maxDepth (tokens.filter Token.isWord)).value.filters = parsed.filters) ∧
    ∀ again : Nat, (parseRepeatedly maxDepth tokens (again + 1)).value
      = parsed :: List.replicate again { parsed with expression := none } := by
  intro parsed
  refine ⟨⟨?_, ?_⟩, fun otherDepth => ⟨?_, ?_⟩, ⟨?_, ?_⟩, fun again => ?_⟩
  · exact keywords_parseTokens maxDepth tokens
  · exact filters_parseTokens maxDepth tokens
  · simp only [parsed, keywords_parseTokens]
  · simp only [parsed, filters_parseTokens]
  · simp only [parsed, keywords_parseTokens]
    rw [filterMap_filter_isWord fun _ => Token.keyword?_of_not_isWord]
  · simp only [parsed, filters_parseTokens]
    rw [filterMap_filter_isWord fun _ => Token.filter?_of_not_isWord]
  · have hothers := Parser.answers_harvest ((Parser.start maxDepth).feed tokens) again
    simp only [parseRepeatedly, Parser.answers]
    rw [hothers]
    rfl

end MailSearch.Query
