import MailSearch.Proofs.Query.Cutting

/-!
# How the words of a query are spelled

A text is nothing but the spellings of its tokens, with blanks before, between and after them
(`exists_pieces_tokenize`): no other character is passed over, and none is taken twice.

`Token.SpelledBy` says which spellings a token has, and does not mention the form of lexeme that the
token was cut as. A field, a keyword and a phrase have one spelling each, an operator has one for
each choice of letter case. The tokens of the forms (`Form.token_escapedField` and its like) give
the name and the value of a field back from the pieces that it is spelled with.
-/

namespace MailSearch.Query

open Text

/-! ### Tokens of the forms -/

namespace Form

variable {name : List Char}

/-- The name of a field is what is before its first colon. -/
theorem takeWhile_isWord_name (hname : IsName name) (tail : List Char) :
    (name ++ ':' :: tail).takeWhile isWord = name := by
  have hcolon : ∀ c ∈ (':' :: tail).head?, isWord c = false := by
    rintro c ⟨⟩
    decide
  exact (takeWhile_eq_and_dropWhile_eq hname.2 hcolon).1

theorem drop_name (name tail : List Char) :
    (name ++ ':' :: tail).drop (name.length + 1) = tail := by
  rw [List.append_cons]
  exact List.drop_left' (by simp)

theorem token_escapedField (hname : IsName name) (body : List Char) :
    escapedField.token (name ++ ':' :: '"' :: body ++ ['"'])
      = .field (.ofList name) (.ofList (unescape body))
          (.ofList (name ++ ':' :: '"' :: body ++ ['"'])) := by
  have hspelling : name ++ ':' :: '"' :: body ++ ['"'] = name ++ ':' :: ('"' :: body ++ ['"']) := by
    simp
  simp only [token, hspelling, takeWhile_isWord_name hname, drop_name]
  simp

theorem token_literalField (hname : IsName name) (body : List Char) :
    literalField.token (name ++ ':' :: '"' :: body ++ ['"'])
      = .field (.ofList name) (.ofList body) (.ofList (name ++ ':' :: '"' :: body ++ ['"'])) := by
  have hspelling : name ++ ':' :: '"' :: body ++ ['"'] = name ++ ':' :: ('"' :: body ++ ['"']) := by
    simp
  simp only [token, hspelling, takeWhile_isWord_name hname, drop_name]
  simp

theorem token_phrase (text : List Char) :
    phrase.token ('"' :: text ++ ['"']) = .quoted (.ofList text) := by
  simp [token]

theorem token_bareField (hname : IsName name) (value : List Char) :
    bareField.token (name ++ ':' :: value)
      = .field (.ofList name) (.ofList value) (.ofList (name ++ ':' :: value)) := by
  simp only [token, takeWhile_isWord_name hname, drop_name]

end Form

/-! ### Spellings -/

/-- The words that are operators, in lower case. -/
def operatorWords : List String := ["and", "or", "not"]

/-- Whether a token is spelled in this way. -/
def Token.SpelledBy (spelling : List Char) : Token → Prop
  | .field name _ raw =>
    raw.toList = spelling ∧ IsName name.toList ∧ ∃ tail, spelling = name.toList ++ ':' :: tail
  | .keyword text =>
    text.toList = spelling ∧ IsBareText spelling ∧ lower text ∉ operatorWords
  | .quoted text => '"' ∉ text.toList ∧ spelling = '"' :: text.toList ++ ['"']
  | .and => lower (.ofList spelling) = "and"
  | .or => lower (.ofList spelling) = "or"
  | .not => lower (.ofList spelling) = "not"
  | .lparen => spelling = ['(']
  | .rparen => spelling = [')']

theorem Form.wordToken_cases (text : String) :
    (lower text = "and" ∧ wordToken text = .and) ∨ (lower text = "or" ∧ wordToken text = .or) ∨
      (lower text = "not" ∧ wordToken text = .not) ∨
      (lower text ∉ operatorWords ∧ wordToken text = .keyword text) := by
  unfold wordToken
  split
  · rename_i hand
    exact .inl ⟨hand, rfl⟩
  · rename_i hor
    exact .inr (.inl ⟨hor, rfl⟩)
  · rename_i hnot
    exact .inr (.inr (.inl ⟨hnot, rfl⟩))
  · rename_i hand hor hnot
    refine .inr (.inr (.inr ⟨?_, rfl⟩))
    simp only [operatorWords, List.mem_cons, List.not_mem_nil, or_false, not_or]
    exact ⟨hand, hor, hnot⟩

/-- A bare word spells the operator that it is in lower case, or else itself. -/
theorem Form.spelledBy_wordToken {text : List Char} (htext : IsBareText text) :
    (wordToken (.ofList text)).SpelledBy text := by
  obtain ⟨hand, htoken⟩ | ⟨hor, htoken⟩ | ⟨hnot, htoken⟩ | ⟨hword, htoken⟩ :=
    wordToken_cases (.ofList text)
  · rw [htoken]
    exact hand
  · rw [htoken]
    exact hor
  · rw [htoken]
    exact hnot
  · rw [htoken]
    exact ⟨String.toList_ofList, htext, hword⟩

/-- **A lexeme spells its token**, whatever its form is. -/
theorem Form.Cuts.spelledBy {form : Form} {spelling rest : List Char}
    (h : form.Cuts spelling rest) : (form.token spelling).SpelledBy spelling := by
  have hfield {name value tail : List Char} (hname : IsName name) :
      (Token.field (.ofList name) (.ofList value) (.ofList (name ++ ':' :: tail))).SpelledBy
        (name ++ ':' :: tail) := by
    refine ⟨String.toList_ofList, ?_, tail, ?_⟩
    · rwa [String.toList_ofList]
    · rw [String.toList_ofList]
  cases h with
  | @escapedField name body _ hname hbody =>
    rw [token_escapedField hname, List.append_assoc, List.cons_append, List.cons_append]
    exact hfield hname
  | @literalField name body _ hname hbody hopen =>
    rw [token_literalField hname, List.append_assoc, List.cons_append, List.cons_append]
    exact hfield hname
  | opening => rfl
  | closing => rfl
  | @phrase text _ htext =>
    rw [token_phrase]
    exact ⟨by rwa [String.toList_ofList], by rw [String.toList_ofList]⟩
  | @bareField name value _ hname hvalue hrest hopen =>
    rw [token_bareField hname]
    exact hfield hname
  | word htext hrest hopen hname => exact spelledBy_wordToken htext

/-! ### A whole text -/

/-- A token as it stands in a text: a spelling of it, which is not empty, and the blanks behind. -/
structure Piece where
  token : Token
  spelling : List Char
  blanks : List Char
  spelledBy : token.SpelledBy spelling
  spelling_ne_nil : spelling ≠ []
  isBlank_of_mem : ∀ c ∈ blanks, isBlank c = true

def Piece.text (piece : Piece) : List Char :=
  piece.spelling ++ piece.blanks

/-- A text that is cut into lexemes is made up of their spellings. Induction on the cut: the blanks
before a lexeme are the ones after the lexeme before it, or stand at the front. -/
theorem Cutting.exists_pieces {cs : List Char} {ls : List Lexeme} (h : Cutting cs ls) :
    ∃ (leading : List Char) (pieces : List Piece),
      cs = leading ++ pieces.flatMap Piece.text ∧ (∀ c ∈ leading, isBlank c = true) ∧
        pieces.map Piece.token = ls.map Lexeme.token := by
  induction h with
  | @nil blanks hblanks => exact ⟨blanks, [], by simp, hblanks, rfl⟩
  | @cons blanks rest lexeme ls hblanks hcuts hrest ih =>
    obtain ⟨between, pieces, rfl, hbetween, htokens⟩ := ih
    have hne : lexeme.spelling ≠ [] := by
      obtain ⟨c, tail, hspelling, -⟩ := hcuts.exists_cons
      rw [hspelling]
      exact List.cons_ne_nil c tail
    let piece : Piece :=
      ⟨lexeme.token, lexeme.spelling, between, hcuts.spelledBy, hne, hbetween⟩
    refine ⟨blanks, piece :: pieces, ?_, hblanks, ?_⟩
    · simp [piece, Piece.text]
    · rw [List.map_cons, List.map_cons, htokens]

/-- Without the blanks, a text and the spellings in it are the same characters in the same order. -/
theorem filter_flatMap_text (pieces : List Piece) :
    (pieces.flatMap Piece.text).filter (!isBlank ·)
      = (pieces.flatMap Piece.spelling).filter (!isBlank ·) := by
  induction pieces with
  | nil => rfl
  | cons piece pieces ih =>
    have hblanks : piece.blanks.filter (!isBlank ·) = [] := by
      rw [List.filter_eq_nil_iff]
      intro c hc
      simp [piece.isBlank_of_mem c hc]
    simp only [List.flatMap_cons, List.filter_append, ih, Piece.text, hblanks, List.append_nil]

/-- **A text is made up of its tokens.** It can be taken apart into blanks at the front and pieces,
one for each token and in the order of the tokens: a spelling of the token, which is not empty, and
blanks after it. So each character that is no blank is part of the spelling of one token. -/
theorem exists_pieces_tokenize (text : String) :
    ∃ (leading : List Char) (pieces : List Piece),
      text.toList = leading ++ pieces.flatMap Piece.text ∧ (∀ c ∈ leading, isBlank c = true) ∧
        pieces.map Piece.token = tokenize text ∧
        text.toList.filter (!isBlank ·) = (pieces.flatMap Piece.spelling).filter (!isBlank ·) := by
  obtain ⟨leading, pieces, htext, hleading, htokens⟩ := (cutting_lexemes text.toList).exists_pieces
  have hskipped : leading.filter (!isBlank ·) = [] := by
    rw [List.filter_eq_nil_iff]
    intro c hc
    simp [hleading c hc]
  refine ⟨leading, pieces, htext, hleading, htokens, ?_⟩
  rw [htext, List.filter_append, hskipped, List.nil_append, filter_flatMap_text]

end MailSearch.Query
