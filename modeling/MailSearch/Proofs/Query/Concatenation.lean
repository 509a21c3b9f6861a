import MailSearch.Proofs.Query.Spelling

/-!
# Text behind a query

Where a lexeme ends depends on the text behind it in two ways. A bare word needs something there that
ends it, and a double quote that is still open may be closed there. A text that starts with a blank
or a parenthesis ends every bare word. So behind a query that leaves no quote open such a text is cut
as if it stood alone (`Cutting.append`).

The lexemes that leave a quote open are those of three forms (`Lexeme.LeavesQuoteOpen`). One of them is
enough to spoil the rule: a blank and a quote behind the query make a single lexeme of all that comes
after it (`Lexeme.LeavesQuoteOpen.exists_cuts`). `tokenize_append_iff` puts both together.
-/

namespace MailSearch.Query

open Text

/-! ### Open quotes -/

/-- A lexeme that could be longer if a double quote came further on: a value whose quotes close only
if a backslash counts for nothing, a value without quotes that starts with one, and a word that starts
with one. -/
inductive Lexeme.LeavesQuoteOpen : Lexeme → Prop
  | literal {spelling : List Char} : LeavesQuoteOpen ⟨.literalField, spelling⟩
  | value {name tail : List Char} (hname : IsName name) :
      LeavesQuoteOpen ⟨.bareField, name ++ ':' :: '"' :: tail⟩
  | word {tail : List Char} : LeavesQuoteOpen ⟨.word, '"' :: tail⟩

/-- A bare word ends before a text that is empty or starts with a blank or a parenthesis. -/
theorem endsWord_iff {rest : List Char} :
    EndsWord rest ↔ ∀ c ∈ rest.head?, isBlank c = true ∨ c = '(' ∨ c = ')' := by
  have hbare (c : Char) : isBare c = false ↔ isBlank c = true ∨ c = '(' ∨ c = ')' := by
    cases hblank : isBlank c <;> simp [isBare, hblank, Classical.or_iff_not_imp_left]
  simp only [EndsWord, hbare]

theorem EndsWord.append {rest more : List Char} (hrest : EndsWord rest) (hmore : EndsWord more) :
    EndsWord (rest ++ more) := by
  cases rest with
  | nil => exact hmore
  | cons c rest => exact hrest

/-! ### Queries that leave no quote open -/

/-- A lexeme that leaves no quote open is cut off as before if more text follows. -/
theorem Lexeme.cuts_append {lexeme : Lexeme} {rest more : List Char}
    (hcuts : lexeme.form.Cuts lexeme.spelling rest) (hclosed : ¬ lexeme.LeavesQuoteOpen)
    (hmore : EndsWord more) : lexeme.form.Cuts lexeme.spelling (rest ++ more) := by
  obtain ⟨form, spelling⟩ := lexeme
  cases hcuts with
  | escapedField hname hbody => exact .escapedField hname hbody
  | literalField => exact absurd .literal hclosed
  | opening => exact .opening
  | closing => exact .closing
  | phrase htext => exact .phrase htext
  | bareField hname hvalue hrest =>
    refine .bareField hname hvalue (hrest.append hmore) ?_
    rintro tail rfl
    exact absurd (.value hname) hclosed
  | word htext hrest _ hname =>
    refine .word htext (hrest.append hmore) ?_ hname
    rintro tail rfl
    exact absurd .word hclosed

/-- Blanks before a text make no difference. -/
theorem Cutting.blanks_append {blanks cs : List Char} {ls : List Lexeme}
    (hblanks : ∀ c ∈ blanks, isBlank c = true) (h : Cutting cs ls) : Cutting (blanks ++ cs) ls := by
  cases h with
  | nil hmore =>
    exact .nil (List.forall_mem_append.2 ⟨hblanks, hmore⟩)
  | @cons between rest lexeme ls hbetween hcuts hrest =>
    rw [← List.append_assoc]
    exact .cons (List.forall_mem_append.2 ⟨hblanks, hbetween⟩) hcuts hrest

/-- **Two texts side by side are cut as each of them alone**, if the first leaves no quote open and
the second ends a bare word. Induction on the cut of the first. -/
theorem Cutting.append {cs more : List Char} {ls ms : List Lexeme} (h : Cutting cs ls)
    (hclosed : ∀ lexeme ∈ ls, ¬ lexeme.LeavesQuoteOpen) (hends : EndsWord more)
    (hmore : Cutting more ms) : Cutting (cs ++ more) (ls ++ ms) := by
  induction h with
  | nil hblanks => exact hmore.blanks_append hblanks
  | @cons blanks rest lexeme ls hblanks hcuts _ ih =>
    obtain ⟨hfirst, hothers⟩ := List.forall_mem_cons.1 hclosed
    have hcuts' : lexeme.form.Cuts lexeme.spelling (rest ++ more) :=
      Lexeme.cuts_append hcuts hfirst hends
    rw [List.append_assoc, List.append_assoc]
    exact .cons hblanks hcuts' (ih hothers)

/-! ### Queries that leave a quote open -/

/-- A blank and a double quote. -/
def closingQuote : List Char := [' ', '"']

theorem endsWord_closingQuote : EndsWord closingQuote := by
  rintro c ⟨⟩
  decide

/-- A quote that is open is closed by a quote behind the text, also if the text ends in a backslash:
that takes the blank. -/
theorem splitEscaped?_append_closingQuote {cs : List Char} (h : splitEscaped? cs = none) :
    splitEscaped? (cs ++ closingQuote) = some (cs ++ [' '], []) := by
  fun_induction splitEscaped? cs with
  | case1 => rfl
  | case2 => cases h
  | case3 => rfl
  | case4 c cs ih =>
    have hcs : splitEscaped? cs = none := Option.map_eq_none_iff.1 h
    simp only [List.cons_append, splitEscaped?, ih hcs]
    rfl
  | case5 c cs hquote hend hescape ih =>
    have hcs : splitEscaped? cs = none := Option.map_eq_none_iff.1 h
    have hc : c ≠ '\\' := ne_backslash hend hescape
    rw [List.cons_append, splitEscaped?_cons hquote hc, ih hcs]
    rfl

/-- A field whose value has an open quote goes on to the quote behind the text. -/
theorem Form.cuts_escapedField_closingQuote {name body : List Char} (hname : IsName name)
    (hopen : splitEscaped? body = none) :
    escapedField.Cuts (name ++ ':' :: '"' :: body ++ closingQuote) [] := by
  obtain ⟨-, hbody⟩ := splitEscaped?_eq_some_iff.1 (splitEscaped?_append_closingQuote hopen)
  have hspelling : name ++ ':' :: '"' :: body ++ closingQuote
      = name ++ ':' :: '"' :: (body ++ [' ']) ++ ['"'] := by
    simp [closingQuote]
  rw [hspelling]
  exact .escapedField hname hbody

theorem leavesQuoteOpen_bareField_iff {name value : List Char} (hname : IsName name) :
    Lexeme.LeavesQuoteOpen ⟨.bareField, name ++ ':' :: value⟩ ↔ ∃ tail, value = '"' :: tail := by
  constructor
  · intro h
    generalize hlexeme : Lexeme.mk .bareField (name ++ ':' :: value) = lexeme at h
    cases h with
    | @value name' tail hname' =>
      obtain ⟨-, hspelling⟩ := Lexeme.mk.inj hlexeme
      exact ⟨tail, (hname.eq_of_append_eq hname' hspelling).2⟩
    | literal => cases hlexeme
    | word => cases hlexeme
  · rintro ⟨tail, rfl⟩
    exact .value hname

/-- **A lexeme that leaves a quote open takes all of the text with it**, up to a quote behind the
text. -/
theorem Lexeme.LeavesQuoteOpen.exists_cuts {lexeme : Lexeme} {rest : List Char}
    (hopen : lexeme.LeavesQuoteOpen) (hcuts : lexeme.form.Cuts lexeme.spelling rest) :
    ∃ form : Form, form.Cuts (lexeme.spelling ++ rest ++ closingQuote) [] := by
  obtain ⟨form, spelling⟩ := lexeme
  cases hcuts with
  | @literalField name body _ hname _ hunclosed =>
    have hlonger := Form.cuts_escapedField_closingQuote hname hunclosed
    exact ⟨.escapedField, by simpa using hlonger⟩
  | @bareField name value _ hname _ _ hquote =>
    obtain ⟨tail, rfl⟩ := (leavesQuoteOpen_bareField_iff hname).1 hopen
    have hunclosed : splitEscaped? (tail ++ rest) = none :=
      splitEscaped?_eq_none_of_notMem (hquote tail rfl)
    have hlonger := Form.cuts_escapedField_closingQuote hname hunclosed
    exact ⟨.escapedField, by simpa using hlonger⟩
  | word _ _ hquote =>
    cases hopen with
    | @word tail =>
      have htext : '"' ∉ tail ++ rest ++ [' '] := by
        have hnone := hquote tail rfl
        simpa using hnone
      have hlonger : Form.phrase.Cuts ('"' :: (tail ++ rest ++ [' ']) ++ ['"']) [] := .phrase htext
      exact ⟨.phrase, by simpa [closingQuote] using hlonger⟩
  | escapedField => cases hopen
  | opening => cases hopen
  | closing => cases hopen
  | phrase => cases hopen

/-- With a quote behind it, a text that leaves a quote open has no more lexemes than without. Induction
on the cut, up to the first lexeme that leaves a quote open. -/
theorem Cutting.exists_closingQuote {cs : List Char} {ls : List Lexeme} (h : Cutting cs ls)
    (hopen : ∃ lexeme ∈ ls, lexeme.LeavesQuoteOpen) :
    ∃ ms, Cutting (cs ++ closingQuote) ms ∧ ms.length ≤ ls.length := by
  induction h with
  | nil =>
    obtain ⟨lexeme, hmem, -⟩ := hopen
    cases hmem
  | @cons blanks rest lexeme ls hblanks hcuts _ ih =>
    rw [List.append_assoc]
    by_cases hfirst : lexeme.LeavesQuoteOpen
    · obtain ⟨form, hlonger⟩ := hfirst.exists_cuts hcuts
      let joined : Lexeme := ⟨form, lexeme.spelling ++ rest ++ closingQuote⟩
      have hcutting : Cutting (blanks ++ (joined.spelling ++ [])) [joined] :=
        .cons hblanks hlonger (.nil (List.forall_mem_nil _))
      rw [List.append_nil] at hcutting
      exact ⟨[joined], hcutting, by simp⟩
    · have hothers : ∃ lexeme ∈ ls, lexeme.LeavesQuoteOpen := by
        obtain ⟨other, hmem, hother⟩ := hopen
        rcases List.mem_cons.1 hmem with rfl | hmem
        · exact absurd hother hfirst
        · exact ⟨other, hmem, hother⟩
      obtain ⟨ms, hms, hlength⟩ := ih hothers
      have hcuts' : lexeme.form.Cuts lexeme.spelling (rest ++ closingQuote) :=
        Lexeme.cuts_append hcuts hfirst endsWord_closingQuote
      rw [List.append_assoc]
      exact ⟨lexeme :: ms, .cons hblanks hcuts' hms, Nat.succ_le_succ hlength⟩

/-! ### Tokens -/

/-- A word that starts with a quote is no operator. -/
theorem Form.wordToken_quote (tail : List Char) :
    wordToken (.ofList ('"' :: tail)) = .keyword (.ofList ('"' :: tail)) := by
  have hlower : (lower (.ofList ('"' :: tail))).toList.head? = some '"' := by
    rw [toList_lower, String.toList_ofList]
    rfl
  obtain ⟨hand, -⟩ | ⟨hor, -⟩ | ⟨hnot, -⟩ | ⟨-, htoken⟩ :=
    wordToken_cases (.ofList ('"' :: tail))
  · rw [hand] at hlower
    exact absurd hlower (by decide)
  · rw [hor] at hlower
    exact absurd hlower (by decide)
  · rw [hnot] at hlower
    exact absurd hlower (by decide)
  · exact htoken

/-- A keyword is a word as it is spelled. -/
theorem Lexeme.eq_of_token_eq_keyword {lexeme : Lexeme} {word : String}
    (h : lexeme.token = .keyword word) : lexeme = ⟨.word, word.toList⟩ := by
  obtain ⟨form, spelling⟩ := lexeme
  cases form with
  | word =>
    have htoken : Form.wordToken (.ofList spelling) = .keyword word := h
    obtain ⟨-, hand⟩ | ⟨-, hor⟩ | ⟨-, hnot⟩ | ⟨-, hkeyword⟩ :=
      Form.wordToken_cases (.ofList spelling)
    · rw [hand] at htoken
      cases htoken
    · rw [hor] at htoken
      cases htoken
    · rw [hnot] at htoken
      cases htoken
    · rw [hkeyword] at htoken
      obtain rfl := Token.keyword.inj htoken
      rw [String.toList_ofList]
  | escapedField => cases h
  | literalField => cases h
  | opening => cases h
  | closing => cases h
  | phrase => cases h
  | bareField => cases h

theorem Cutting.exists_cuts_of_mem {cs : List Char} {ls : List Lexeme} (h : Cutting cs ls)
    {lexeme : Lexeme} (hmem : lexeme ∈ ls) :
    ∃ rest, lexeme.form.Cuts lexeme.spelling rest := by
  induction h with
  | nil => cases hmem
  | @cons blanks rest first ls hblanks hcuts _ ih =>
    rcases List.mem_cons.1 hmem with rfl | hmem
    · exact ⟨rest, hcuts⟩
    · exact ih hmem

/-- The lexemes of a text that leave no quote open, told by their tokens. -/
theorem forall_not_leavesQuoteOpen_iff (text : String) :
    (∀ lexeme ∈ lexemes text.toList, ¬ lexeme.LeavesQuoteOpen) ↔
      (∀ lexeme ∈ lexemes text.toList, lexeme.form ≠ .literalField) ∧
      (∀ word, .keyword word ∈ tokenize text → word.toList.head? ≠ some '"') ∧
      ∀ lexeme ∈ lexemes text.toList, lexeme.form = .bareField → ∀ name value raw,
        lexeme.token = .field name value raw → value.toList.head? ≠ some '"' := by
  constructor
  · intro hclosed
    refine ⟨fun lexeme hmem hform => ?_, fun word hmem hquote => ?_,
      fun lexeme hmem hform name value raw htoken hquote => ?_⟩
    · obtain ⟨form, spelling⟩ := lexeme
      obtain rfl : form = .literalField := hform
      exact hclosed _ hmem .literal
    · obtain ⟨lexeme, hlexeme, htoken⟩ := List.mem_map.1 hmem
      obtain rfl := Lexeme.eq_of_token_eq_keyword htoken
      obtain ⟨tail, htail⟩ := List.head?_eq_some_iff.1 hquote
      rw [htail] at hlexeme
      exact hclosed _ hlexeme .word
    · obtain ⟨rest, hcuts⟩ := (cutting_lexemes text.toList).exists_cuts_of_mem hmem
      obtain ⟨form, spelling⟩ := lexeme
      obtain rfl : form = .bareField := hform
      cases hcuts with
      | bareField hname =>
        obtain ⟨-, rfl, -⟩ := Token.field.inj ((Form.token_bareField hname _).symm.trans htoken)
        rw [String.toList_ofList] at hquote
        exact hclosed _ hmem ((leavesQuoteOpen_bareField_iff hname).2 (List.head?_eq_some_iff.1 hquote))
  · rintro ⟨hliteral, hkeyword, hvalue⟩ lexeme hmem hopen
    cases hopen with
    | literal => exact hliteral _ hmem rfl
    | @value name tail hname =>
      have htoken := Form.token_bareField hname ('"' :: tail)
      exact hvalue _ hmem rfl _ _ _ htoken (by rw [String.toList_ofList]; rfl)
    | @word tail =>
      have htoken : (Lexeme.mk .word ('"' :: tail)).token = .keyword (.ofList ('"' :: tail)) :=
        Form.wordToken_quote tail
      have hword : .keyword (.ofList ('"' :: tail)) ∈ tokenize text :=
        List.mem_map.2 ⟨_, hmem, htoken⟩
      exact hkeyword _ hword (by rw [String.toList_ofList]; rfl)

/-- **Two queries side by side are cut into the tokens of the one and then those of the other**,
whatever the second one is that is empty or starts with a blank or a parenthesis, exactly if the first
one leaves no quote open: it has no value that is taken literally, and no keyword and no value without
quotes that starts with a double quote. -/
theorem tokenize_append_iff (text : String) :
    (∀ more : String, (∀ c ∈ more.toList.head?, isBlank c = true ∨ c = '(' ∨ c = ')') →
        tokenize (text ++ more) = tokenize text ++ tokenize more) ↔
      (∀ lexeme ∈ lexemes text.toList, lexeme.form ≠ .literalField) ∧
      (∀ word, .keyword word ∈ tokenize text → word.toList.head? ≠ some '"') ∧
      ∀ lexeme ∈ lexemes text.toList, lexeme.form = .bareField → ∀ name value raw,
        lexeme.token = .field name value raw → value.toList.head? ≠ some '"' := by
  rw [← forall_not_leavesQuoteOpen_iff]
  constructor
  · intro hsplits
    by_contra hsome
    have hopen : ∃ lexeme ∈ lexemes text.toList, lexeme.LeavesQuoteOpen := by
      simpa using hsome
    -- a blank and a quote behind the text add no token
    obtain ⟨ms, hms, hlength⟩ := (cutting_lexemes text.toList).exists_closingQuote hopen
    have hmore := hsplits (.ofList closingQuote) (endsWord_iff.1 endsWord_closingQuote)
    have hlonger : (tokenize (text ++ .ofList closingQuote)).length ≤ (tokenize text).length := by
      have hcut : lexemes (text ++ .ofList closingQuote).toList = ms :=
        cutting_iff.1 (by simpa using hms)
      simpa only [tokenize, hcut, List.length_map] using hlength
    have hone : (tokenize (.ofList closingQuote)).length = 1 := by decide +kernel
    rw [hmore, List.length_append, hone] at hlonger
    omega
  · intro hclosed more hmore
    have hcutting := (cutting_lexemes text.toList).append hclosed (endsWord_iff.2 hmore)
      (cutting_lexemes more.toList)
    rw [← String.toList_append] at hcutting
    rw [tokenize, cutting_iff.1 hcutting, List.map_append]
    rfl

end MailSearch.Query
