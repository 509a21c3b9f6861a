import MailSearch.Proofs.Query.Collection
import MailSearch.Proofs.Query.Cutting
import MailSearch.Proofs.Query.Leaves

/-!
# The keywords of a query are a query of their own

What a query leaves for the text search is cut from the query and put together again with blanks.
Read as a query, it comes to the same keywords and to nothing else (`parse_keywords`).

The lexemes that are left have lost what stood between them. That can change how a lexeme is read
only through a quote that the lexeme leaves open: the text after it must close it no more than it
did before. `Uncloses` says so, and it holds of any text and what is left of it, because a quote
that no backslash escapes starts a lexeme of its own or closes one (`uncloses_leftover`).
-/

namespace MailSearch.Query

open Text

/-! ### Quotes that stay open -/

/-- A text closes a quote that stands open before it exactly if one of its parts does so, where the
second part starts with no quote and no backslash: a backslash at the end of the first one takes a
character that has no meaning of its own. -/
theorem splitEscaped?_append_eq_none_iff {text rest : List Char}
    (hrest : ∀ c ∈ rest.head?, c ≠ '"' ∧ c ≠ '\\') :
    splitEscaped? (text ++ rest) = none ↔
      splitEscaped? text = none ∧ splitEscaped? rest = none := by
  cases rest with
  | nil => simp [splitEscaped?]
  | cons d rest =>
    obtain ⟨hquote, hescape⟩ := hrest d rfl
    rw [splitEscaped?_cons hquote hescape, Option.map_eq_none_iff]
    fun_induction splitEscaped? text with
    | case1 => simp [splitEscaped?_cons hquote hescape]
    | case2 text => simp [splitEscaped?]
    | case3 => simp [splitEscaped?]
    | case4 c text ih => simpa [splitEscaped?] using ih
    | case5 c text hcquote hend hcescape ih =>
      have hc : c ≠ '\\' := ne_backslash hend hcescape
      simpa [splitEscaped?_cons hcquote hc] using ih

theorem EndsWord.ne_quote {rest : List Char} (h : EndsWord rest) :
    ∀ c ∈ rest.head?, c ≠ '"' ∧ c ≠ '\\' := by
  intro c hc
  have hbare : isBare c = false := h c hc
  constructor
  · rintro rfl
    exact absurd hbare (by decide)
  · rintro rfl
    exact absurd hbare (by decide)

/-- If the quote after a body is not the one that closes it, then what closes it comes later or not
at all. -/
theorem splitEscaped?_append_quote_eq_none {body rest other : List Char}
    (hopen : splitEscaped? (body ++ '"' :: rest) = none)
    (hother : splitEscaped? rest = none → splitEscaped? other = none) :
    splitEscaped? (body ++ '"' :: other) = none := by
  fun_induction splitEscaped? body with
  | case1 => simp [splitEscaped?] at hopen
  | case2 body => simp [splitEscaped?] at hopen
  | case3 =>
    have hrest : splitEscaped? rest = none := by simpa [splitEscaped?] using hopen
    simpa [splitEscaped?] using hother hrest
  | case4 c body ih =>
    have hbody : splitEscaped? (body ++ '"' :: rest) = none := by simpa [splitEscaped?] using hopen
    simpa [splitEscaped?] using ih hbody
  | case5 c body hquote hend hescape ih =>
    have hc : c ≠ '\\' := ne_backslash hend hescape
    have hbody : splitEscaped? (body ++ '"' :: rest) = none := by
      simpa [splitEscaped?_cons hquote hc] using hopen
    simpa [splitEscaped?_cons hquote hc] using ih hbody

/-- A text closes no quote that `rest` leaves open, whether a backslash counts or not, and it ends a
bare word: it may stand where `rest` stood. -/
structure Uncloses (rest other : List Char) : Prop where
  endsWord : EndsWord other
  literal : '"' ∉ rest → '"' ∉ other
  escaped : splitEscaped? rest = none → splitEscaped? other = none

/-- A lexeme is cut off before any text that closes no quote it leaves open. -/
theorem Form.Cuts.of_uncloses {form : Form} {spelling rest other : List Char}
    (h : form.Cuts spelling rest) (hother : Uncloses rest other) : form.Cuts spelling other := by
  have hopen {tail : List Char} (htail : '"' ∉ tail ++ rest) : '"' ∉ tail ++ other := by
    rw [List.mem_append, not_or] at htail ⊢
    exact ⟨htail.1, hother.literal htail.2⟩
  cases h with
  | escapedField hname hbody => exact .escapedField hname hbody
  | literalField hname hbody hunclosed =>
    exact .literalField hname hbody (splitEscaped?_append_quote_eq_none hunclosed hother.escaped)
  | opening => exact .opening
  | closing => exact .closing
  | phrase htext => exact .phrase htext
  | bareField hname hvalue hrest hquote =>
    exact .bareField hname hvalue hother.endsWord fun tail htail => hopen (hquote tail htail)
  | word htext hrest hquote hname =>
    exact .word htext hother.endsWord (fun tail htail => hopen (hquote tail htail)) hname

/-! ### What is left of a text -/

/-- Whether a lexeme is left as a keyword. -/
def Lexeme.isKept (lexeme : Lexeme) : Bool :=
  lexeme.token.keyword?.isSome

/-- The lexemes that are left as keywords, put together again with a blank before each. -/
def leftover (ls : List Lexeme) : List Char :=
  (ls.filter Lexeme.isKept).flatMap fun lexeme => ' ' :: lexeme.spelling

@[simp] theorem leftover_nil : leftover [] = [] := rfl

theorem leftover_cons_of_isKept {lexeme : Lexeme} (h : lexeme.isKept = true) (ls : List Lexeme) :
    leftover (lexeme :: ls) = ' ' :: (lexeme.spelling ++ leftover ls) := by
  simp [leftover, h]

theorem leftover_cons_of_not_isKept {lexeme : Lexeme} (h : lexeme.isKept = false)
    (ls : List Lexeme) : leftover (lexeme :: ls) = leftover ls := by
  simp [leftover, h]

theorem endsWord_leftover (ls : List Lexeme) : EndsWord (leftover ls) := by
  induction ls with
  | nil => simp [EndsWord]
  | cons lexeme ls ih =>
    cases h : lexeme.isKept with
    | true =>
      rw [leftover_cons_of_isKept h]
      rintro c ⟨⟩
      decide
    | false =>
      rw [leftover_cons_of_not_isKept h]
      exact ih

/-- The characters that are left are blanks and characters of the text. -/
theorem mem_of_mem_leftover {cs : List Char} {ls : List Lexeme} (h : Cutting cs ls) {c : Char}
    (hc : c ∈ leftover ls) : c = ' ' ∨ c ∈ cs := by
  induction h with
  | nil => simp at hc
  | @cons blanks rest lexeme ls hblanks hcuts hrest ih =>
    have hlater : c ∈ leftover ls → c = ' ' ∨ c ∈ blanks ++ (lexeme.spelling ++ rest) := by
      intro hmem
      exact (ih hmem).imp_right fun hmem => by simp [hmem]
    cases hkept : lexeme.isKept with
    | true =>
      rw [leftover_cons_of_isKept hkept, List.mem_cons, List.mem_append] at hc
      rcases hc with rfl | hmem | hmem
      · exact .inl rfl
      · exact .inr (by simp [hmem])
      · exact hlater hmem
    | false =>
      rw [leftover_cons_of_not_isKept hkept] at hc
      exact hlater hc

/-- A lexeme of a text that closes no quote has its own quotes escaped, and neither it nor the text
after it closes one. -/
theorem Form.Cuts.splitEscaped?_eq_none {form : Form} {spelling rest : List Char}
    (h : form.Cuts spelling rest) (hopen : splitEscaped? (spelling ++ rest) = none) :
    splitEscaped? spelling = none ∧ splitEscaped? rest = none := by
  have hcolon (tail : List Char) : ∀ c ∈ (':' :: tail).head?, c ≠ '"' ∧ c ≠ '\\' := by
    rintro c ⟨⟩
    decide
  cases h with
  | @escapedField name body =>
    -- the quote after the colon would close it
    rw [List.append_assoc, List.append_assoc, List.cons_append,
      splitEscaped?_append_eq_none_iff (hcolon _)] at hopen
    simp [splitEscaped?] at hopen
  | @literalField name body =>
    rw [List.append_assoc, List.append_assoc, List.cons_append,
      splitEscaped?_append_eq_none_iff (hcolon _)] at hopen
    simp [splitEscaped?] at hopen
  | opening => exact ⟨rfl, by simpa [splitEscaped?] using hopen⟩
  | closing => exact ⟨rfl, by simpa [splitEscaped?] using hopen⟩
  | phrase => simp [splitEscaped?] at hopen
  | bareField hname hvalue hrest =>
    exact (splitEscaped?_append_eq_none_iff hrest.ne_quote).1 hopen
  | word htext hrest =>
    exact (splitEscaped?_append_eq_none_iff hrest.ne_quote).1 hopen

theorem splitEscaped?_blanks_append {blanks : List Char} (hblanks : ∀ c ∈ blanks, isBlank c = true)
    {cs : List Char} (hopen : splitEscaped? (blanks ++ cs) = none) : splitEscaped? cs = none := by
  induction blanks with
  | nil => exact hopen
  | cons c blanks ih =>
    have hc : isBlank c = true := hblanks c (by simp)
    have hquote : c ≠ '"' := by rintro rfl; exact absurd hc (by decide)
    have hescape : c ≠ '\\' := by rintro rfl; exact absurd hc (by decide)
    rw [List.cons_append, splitEscaped?_cons hquote hescape, Option.map_eq_none_iff] at hopen
    exact ih (fun d hd => hblanks d (by simp [hd])) hopen

/-- What is left of a text closes no quote from before it that the text leaves open. Induction on
the lexemes: one with a quote that no backslash escapes would close it, and the others end where a
bare word ends. -/
theorem splitEscaped?_leftover_eq_none {cs : List Char} {ls : List Lexeme} (h : Cutting cs ls)
    (hopen : splitEscaped? cs = none) : splitEscaped? (leftover ls) = none := by
  induction h with
  | nil => rfl
  | @cons blanks rest lexeme ls hblanks hcuts hrest ih =>
    obtain ⟨hspelling, hrest⟩ :=
      hcuts.splitEscaped?_eq_none (splitEscaped?_blanks_append hblanks hopen)
    cases hkept : lexeme.isKept with
    | true =>
      have hjoined : splitEscaped? (lexeme.spelling ++ leftover ls) = none :=
        (splitEscaped?_append_eq_none_iff (endsWord_leftover ls).ne_quote).2 ⟨hspelling, ih hrest⟩
      rw [leftover_cons_of_isKept hkept, splitEscaped?_cons (by decide) (by decide), hjoined]
      rfl
    | false =>
      rw [leftover_cons_of_not_isKept hkept]
      exact ih hrest

theorem uncloses_leftover {cs : List Char} {ls : List Lexeme} (h : Cutting cs ls) :
    Uncloses cs (leftover ls) where
  endsWord := endsWord_leftover ls
  literal hquote hmem := by
    rcases mem_of_mem_leftover h hmem with heq | hmem
    · exact absurd heq (by decide)
    · exact hquote hmem
  escaped := splitEscaped?_leftover_eq_none h

/-- **What is left is cut as it was**, into the lexemes that are left. -/
theorem cutting_leftover {cs : List Char} {ls : List Lexeme} (h : Cutting cs ls) :
    Cutting (leftover ls) (ls.filter Lexeme.isKept) := by
  induction h with
  | nil => exact .nil (by simp)
  | @cons blanks rest lexeme ls hblanks hcuts hrest ih =>
    cases hkept : lexeme.isKept with
    | true =>
      have hblank : ∀ c ∈ [' '], isBlank c = true := by
        intro c hc
        rw [List.mem_singleton.1 hc]
        rfl
      rw [leftover_cons_of_isKept hkept, List.filter_cons_of_pos hkept]
      exact .cons hblank (hcuts.of_uncloses (uncloses_leftover hrest)) ih
    | false =>
      rw [leftover_cons_of_not_isKept hkept, List.filter_cons_of_neg (by simp [hkept])]
      exact ih

/-! ### Keywords as text -/

/-- A lexeme that is left is left as it is spelled. -/
theorem Lexeme.eq_of_keyword? {lexeme : Lexeme} {rest : List Char} {text : String}
    (hcuts : lexeme.form.Cuts lexeme.spelling rest) (h : lexeme.token.keyword? = some text) :
    text.toList = lexeme.spelling := by
  have hfield {name value raw : String} (h : (Token.field name value raw).keyword? = some text) :
      text = raw := by
    simp only [Token.keyword?] at h
    split at h
    · cases h
    · exact (Option.some.inj h).symm
  obtain ⟨form, spelling⟩ := lexeme
  cases form with
  | escapedField => simp [hfield h]
  | literalField => simp [hfield h]
  | opening => cases h
  | closing => cases h
  | phrase =>
    cases hcuts
    simp [Lexeme.token, Form.token, Token.keyword?] at h
    simp [← h]
  | bareField => simp [hfield h]
  | word =>
    simp only [Lexeme.token, Form.token, Form.wordToken] at h
    split at h
    · cases h
    · cases h
    · cases h
    · simp [← Option.some.inj h]

/-- The keywords of a text are the spellings of the lexemes that are left. -/
theorem filterMap_keyword?_map_token {cs : List Char} {ls : List Lexeme} (h : Cutting cs ls) :
    ((ls.map Lexeme.token).filterMap Token.keyword?).map String.toList
      = (ls.filter Lexeme.isKept).map Lexeme.spelling := by
  induction h with
  | nil => rfl
  | @cons blanks rest lexeme ls hblanks hcuts hrest ih =>
    cases hkeyword : lexeme.token.keyword? with
    | none =>
      have hkept : lexeme.isKept = false := by simp [Lexeme.isKept, hkeyword]
      rw [List.map_cons, List.filterMap_cons_none hkeyword,
        List.filter_cons_of_neg (by simp [hkept])]
      exact ih
    | some text =>
      have hkept : lexeme.isKept = true := by simp [Lexeme.isKept, hkeyword]
      rw [List.map_cons, List.filterMap_cons_some hkeyword, List.filter_cons_of_pos hkept,
        List.map_cons, List.map_cons, ih, Lexeme.eq_of_keyword? hcuts hkeyword]

/-- The words of the keywords of a text are the words of the text that are left as keywords. -/
theorem tokenize_intercalate_keyword? (text : String) :
    tokenize (" ".intercalate ((tokenize text).filterMap Token.keyword?))
      = (tokenize text).filter (·.keyword?.isSome) := by
  have hcutting := cutting_lexemes text.toList
  have hlist : (" ".intercalate ((tokenize text).filterMap Token.keyword?)).toList
      = [' '].intercalate (((lexemes text.toList).filter Lexeme.isKept).map Lexeme.spelling) := by
    rw [String.toList_intercalate, tokenize, filterMap_keyword?_map_token hcutting]
    rfl
  have hleftover : (((lexemes text.toList).filter Lexeme.isKept).map Lexeme.spelling).flatMap
      (fun spelling => ' ' :: spelling) = leftover (lexemes text.toList) := by
    rw [List.flatMap_map, leftover]
  rw [tokenize, hlist, lexemes_intercalate, hleftover, cutting_iff.1 (cutting_leftover hcutting),
    tokenize, List.filter_map]
  rfl

/-- A blank text has no words, so it needs no case of its own. -/
theorem parse_value_eq (text : String) (maxDepth : Int) :
    (parse text maxDepth).value = (parseTokens maxDepth (tokenize text)).value := by
  unfold parse
  split
  · rename_i hblank
    have hnone : lexemes text.toList = [] :=
      cutting_iff.1 (.nil (by simpa [isBlankText] using hblank))
    rw [tokenize, hnone]
    unfold parseTokens Parser.start
    split <;> rfl
  · rfl

/-- **The keywords of a query are a query for the same keywords, and for nothing else.** Whatever
the query and the limits on the nesting are, parsing its keywords again gives them back with no
filter and no expression. They are cut into the very words they were collected as, so no piece of
the query becomes an operator, a parenthesis or part of another word. -/
theorem parse_keywords (text : String) (maxDepth maxDepth' : Int) :
    (parse (parse text maxDepth).value.keywords maxDepth').value
        = { keywords := (parse text maxDepth).value.keywords, filters := [], expression := none } ∧
      tokenize (parse text maxDepth).value.keywords
        = (tokenize text).filter (·.keyword?.isSome) := by
  have hkeywords : (parse text maxDepth).value.keywords
      = " ".intercalate ((tokenize text).filterMap Token.keyword?) := by
    rw [parse_value_eq, keywords_parseTokens]
  generalize (parse text maxDepth).value.keywords = keywords at *
  have htokens : tokenize keywords = (tokenize text).filter (·.keyword?.isSome) := by
    rw [hkeywords, tokenize_intercalate_keyword?]
  refine ⟨?_, htokens⟩
  have hagain : (tokenize keywords).filterMap Token.keyword?
      = (tokenize text).filterMap Token.keyword? := by
    rw [htokens, List.filterMap_filter]
    congr 1
    funext token
    cases token.keyword? <;> rfl
  have hnoFilter : (tokenize keywords).filterMap Token.filter? = [] := by
    rw [htokens, List.filterMap_eq_nil_iff]
    intro token htoken
    exact Token.filter?_of_isSome_keyword? (List.mem_filter.1 htoken).2
  have hwords := keywords_parseTokens maxDepth' (tokenize keywords)
  have hfilters := filters_parseTokens maxDepth' (tokenize keywords)
  have hexpression := leavesOf_parseTokens maxDepth' (tokenize keywords)
  rw [hagain, ← hkeywords] at hwords
  rw [hnoFilter] at hfilters
  rw [hfilters, Expr.leavesOf_eq_nil_iff] at hexpression
  rw [parse_value_eq]
  generalize (parseTokens maxDepth' (tokenize keywords)).value = parsed at *
  obtain ⟨words, filters, expression⟩ := parsed
  simp only at hwords hfilters hexpression
  rw [hwords, hfilters, hexpression]

end MailSearch.Query
