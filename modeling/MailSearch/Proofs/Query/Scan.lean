import MailSearch.Proofs.Query.Spelling

/-!
# What the scanner is to find

The cut of a query into tokens, said without a scanner. Each form of lexeme has a language
(`Form.Language`). At the first character that is not blank the forms are asked in order which of
them has a text of its language there. The first one that has takes the longest such text, and what
the form means (`Form.Means`) makes a token of it. `Scan` repeats that to the end of the text.

`tokenize_eq_iff_scan` says that the tokens of a text are those and no others. The scanner never
goes back over a text; that it finds what it should has to do with each form separately: the texts
of a language that start at one place are all parts of the one that the scanner cuts off there
(`Form.exists_split?_of_language`).
-/

namespace MailSearch.Query

open Text

/-! ### Languages -/

/-- The text between the quotes of an escaped value: characters that are neither quote nor
backslash, and pairs of a backslash and any character. -/
inductive EscapedBody : List Char → Prop
  | nil : EscapedBody []
  | char {c : Char} {body : List Char} (hquote : c ≠ '"') (hescape : c ≠ '\\')
      (hbody : EscapedBody body) : EscapedBody (c :: body)
  | pair (c : Char) {body : List Char} (hbody : EscapedBody body) : EscapedBody ('\\' :: c :: body)

/-- The texts that a form is about. -/
inductive Form.Language : Form → List Char → Prop
  | escapedField {name body : List Char} (hname : IsName name) (hbody : EscapedBody body) :
      Language .escapedField (name ++ ':' :: '"' :: body ++ ['"'])
  | literalField {name body : List Char} (hname : IsName name) (hbody : '"' ∉ body) :
      Language .literalField (name ++ ':' :: '"' :: body ++ ['"'])
  | opening : Language .opening ['(']
  | closing : Language .closing [')']
  | phrase {text : List Char} (htext : '"' ∉ text) : Language .phrase ('"' :: text ++ ['"'])
  | bareField {name value : List Char} (hname : IsName name) (hvalue : IsBareText value) :
      Language .bareField (name ++ ':' :: value)
  | word {text : List Char} (htext : IsBareText text) : Language .word text

/-- The longest text of a language that another text starts with. -/
structure IsLongest (language : List Char → Prop) (cs text : List Char) : Prop where
  starts : text <+: cs
  mem : language text
  longest : ∀ other, other <+: cs → language other → other.length ≤ text.length

/-- The place of a form in the order that the forms are asked in. -/
def Form.rank : Form → Nat
  | escapedField => 1
  | literalField => 2
  | opening => 3
  | closing => 4
  | phrase => 5
  | bareField => 6
  | word => 7

/-- Whether the forms that are asked before a form have no text that `cs` starts with. -/
def Form.IsFirst (form : Form) (cs : List Char) : Prop :=
  ∀ other : Form, other.rank < form.rank → ∀ text, text <+: cs → ¬ other.Language text

/-! ### Meanings -/

/-- What the text between quotes stands for: a backslash before a quote or a backslash is left out,
from left to right, and all else stands for itself. -/
inductive Unescapes : List Char → List Char → Prop
  | nil : Unescapes [] []
  | escape {c : Char} {body value : List Char} (hc : c = '"' ∨ c = '\\')
      (hrest : Unescapes body value) : Unescapes ('\\' :: c :: body) (c :: value)
  | keep {c : Char} {body value : List Char}
      (hc : c = '\\' → ∀ d ∈ body.head?, d ≠ '"' ∧ d ≠ '\\') (hrest : Unescapes body value) :
      Unescapes (c :: body) (c :: value)

/-- The token that a text of a form stands for. -/
inductive Form.Means : Form → List Char → Token → Prop
  | escapedField {name body value : List Char} (hname : IsName name)
      (hvalue : Unescapes body value) :
      Means .escapedField (name ++ ':' :: '"' :: body ++ ['"'])
        (.field (.ofList name) (.ofList value) (.ofList (name ++ ':' :: '"' :: body ++ ['"'])))
  | literalField {name body : List Char} (hname : IsName name) :
      Means .literalField (name ++ ':' :: '"' :: body ++ ['"'])
        (.field (.ofList name) (.ofList body) (.ofList (name ++ ':' :: '"' :: body ++ ['"'])))
  | opening : Means .opening ['('] .lparen
  | closing : Means .closing [')'] .rparen
  | phrase {text : List Char} : Means .phrase ('"' :: text ++ ['"']) (.quoted (.ofList text))
  | bareField {name value : List Char} (hname : IsName name) :
      Means .bareField (name ++ ':' :: value)
        (.field (.ofList name) (.ofList value) (.ofList (name ++ ':' :: value)))
  | and {text : List Char} (htext : lower (.ofList text) = "and") : Means .word text .and
  | or {text : List Char} (htext : lower (.ofList text) = "or") : Means .word text .or
  | not {text : List Char} (htext : lower (.ofList text) = "not") : Means .word text .not
  | keyword {text : List Char} (htext : lower (.ofList text) ∉ operatorWords) :
      Means .word text (.keyword (.ofList text))

/-- The tokens of a text: at the first character that is not blank, the longest text of the first
form that has one there, and so on behind it. -/
inductive Scan : List Char → List Token → Prop
  | nil {blanks : List Char} (hblanks : ∀ c ∈ blanks, isBlank c = true) : Scan blanks []
  | cons {blanks spelling rest : List Char} {form : Form} {token : Token} {tokens : List Token}
      (hblanks : ∀ c ∈ blanks, isBlank c = true)
      (hstart : ∀ c ∈ (spelling ++ rest).head?, isBlank c = false)
      (hfirst : form.IsFirst (spelling ++ rest))
      (hlongest : IsLongest form.Language (spelling ++ rest) spelling)
      (hmeans : form.Means spelling token) (hrest : Scan rest tokens) :
      Scan (blanks ++ (spelling ++ rest)) (token :: tokens)

/-! ### What is cut off is the longest text -/

theorem isEscapedBody_iff {body : List Char} : isEscapedBody body = true ↔ EscapedBody body := by
  constructor
  · intro h
    fun_induction isEscapedBody body with
    | case1 => exact .nil
    | case2 => cases h
    | case3 => cases h
    | case4 c body ih => exact .pair c (ih h)
    | case5 c body hquote hend hescape ih => exact .char hquote (ne_backslash hend hescape) (ih h)
  · intro h
    induction h with
    | nil => rfl
    | char hquote hescape _ ih => rwa [isEscapedBody_cons hquote hescape]
    | pair c _ ih => exact ih

namespace Form

variable {form : Form} {cs spelling rest text : List Char}

/-- What is cut off as a form is a text of its language. -/
theorem language_of_split? (h : form.split? cs = some (spelling, rest)) :
    form.Language spelling := by
  cases form with
  | escapedField =>
    rw [split?_escapedField, splitQuotedField?_eq_some_iff] at h
    obtain ⟨name, tail, body, -, hname, hbody, rfl⟩ := h
    exact .escapedField hname (isEscapedBody_iff.1 (splitEscaped?_eq_some_iff.1 hbody).2)
  | literalField =>
    rw [split?_literalField, splitQuotedField?_eq_some_iff] at h
    obtain ⟨name, tail, body, -, hname, hbody, rfl⟩ := h
    exact .literalField hname (splitLiteral?_eq_some_iff.1 hbody).2
  | opening | closing =>
    simp only [split?] at h
    split at h
    · cases h
      constructor
    · cases h
  | phrase =>
    obtain ⟨text, -, htext, rfl⟩ := split?_phrase_eq_some_iff.1 h
    exact .phrase htext
  | bareField =>
    obtain ⟨name, value, -, hname, hvalue, -, rfl⟩ := split?_bareField_eq_some_iff.1 h
    exact .bareField hname hvalue
  | word => exact .word (split?_word_eq_some_iff.1 h).2.1

/-- A bare text goes on as long as bare characters follow. -/
theorem split?_word_append (htext : IsBareText text) (more : List Char) :
    word.split? (text ++ more)
      = some (text ++ more.takeWhile isBare, more.dropWhile isBare) := by
  refine split?_word_eq_some_iff.2 ⟨?_, ⟨?_, ?_⟩, ?_⟩
  · rw [List.append_assoc, List.takeWhile_append_dropWhile]
  · exact List.append_ne_nil_of_left_ne_nil htext.1 _
  · intro c hc
    rcases List.mem_append.1 hc with hc | hc
    · exact htext.2 c hc
    · exact List.mem_takeWhile_imp hc
  · intro c hc
    have hfirst := List.head?_dropWhile_not isBare more
    rw [hc] at hfirst
    simpa using hfirst

/-- **Where a text of the language starts, one is cut off that is at least as long.** -/
theorem exists_split?_of_language (h : form.Language text) (more : List Char) :
    ∃ spelling rest, form.split? (text ++ more) = some (spelling, rest) ∧
      text.length ≤ spelling.length := by
  cases h with
  | @escapedField name body hname hbody =>
    -- the quote after the body is the first one that no backslash takes
    have hsplit : splitEscaped? (body ++ '"' :: more) = some (body, more) :=
      splitEscaped?_eq_some_iff.2 ⟨rfl, isEscapedBody_iff.2 hbody⟩
    refine ⟨_, more, ?_, Nat.le_refl _⟩
    exact splitQuotedField?_eq_some_iff.2 ⟨name, _, body, by simp, hname, hsplit, rfl⟩
  | @literalField name body hname hbody =>
    have hsplit : splitLiteral? (body ++ '"' :: more) = some (body, more) :=
      splitLiteral?_eq_some_iff.2 ⟨rfl, hbody⟩
    refine ⟨_, more, ?_, Nat.le_refl _⟩
    exact splitQuotedField?_eq_some_iff.2 ⟨name, _, body, by simp, hname, hsplit, rfl⟩
  | opening => exact ⟨_, more, rfl, Nat.le_refl _⟩
  | closing => exact ⟨_, more, rfl, Nat.le_refl _⟩
  | @phrase text htext =>
    refine ⟨_, more, ?_, Nat.le_refl _⟩
    exact split?_phrase_eq_some_iff.2 ⟨text, by simp, htext, rfl⟩
  | @bareField name value hname hvalue =>
    have hcs : name ++ ':' :: value ++ more = name ++ ':' :: (value ++ more) := by simp
    refine ⟨name ++ ':' :: (value ++ more.takeWhile isBare), more.dropWhile isBare, ?_, ?_⟩
    · rw [split?_bareField (splitName?_eq_some_iff.2 ⟨hcs, hname⟩), split?_word_append hvalue]
      rfl
    · simp only [List.length_append, List.length_cons]
      omega
  | word htext =>
    refine ⟨_, _, split?_word_append htext more, ?_⟩
    rw [List.length_append]
    omega

theorem split?_eq_none_iff_language :
    form.split? cs = none ↔ ∀ text, text <+: cs → ¬ form.Language text := by
  constructor
  · rintro h text ⟨more, rfl⟩ hmem
    obtain ⟨spelling, rest, hsplit, -⟩ := exists_split?_of_language hmem more
    rw [h] at hsplit
    cases hsplit
  · intro h
    cases hsplit : form.split? cs with
    | none => rfl
    | some cut =>
      obtain ⟨spelling, rest⟩ := cut
      have hstarts : spelling <+: cs := ⟨rest, split?_append hsplit⟩
      exact absurd (language_of_split? hsplit) (h spelling hstarts)

/-- **What is cut off as a form is the longest text of its language.** -/
theorem split?_eq_some_iff_isLongest :
    form.split? cs = some (spelling, rest) ↔
      cs = spelling ++ rest ∧ IsLongest form.Language cs spelling := by
  constructor
  · intro h
    have hcs : spelling ++ rest = cs := split?_append h
    refine ⟨hcs.symm, ⟨rest, hcs⟩, language_of_split? h, ?_⟩
    rintro other ⟨more, rfl⟩ hmem
    obtain ⟨longer, after, hsplit, hle⟩ := exists_split?_of_language hmem more
    rw [h] at hsplit
    cases hsplit
    exact hle
  · rintro ⟨rfl, hlongest⟩
    obtain ⟨longer, after, hsplit, hle⟩ := exists_split?_of_language hlongest.mem rest
    have hcs : longer ++ after = spelling ++ rest := split?_append hsplit
    have hge : longer.length ≤ spelling.length :=
      hlongest.longest longer ⟨after, hcs⟩ (language_of_split? hsplit)
    obtain ⟨rfl, rfl⟩ := List.append_inj hcs (Nat.le_antisymm hge hle)
    exact hsplit

theorem mem_takeWhile_all_iff (form other : Form) :
    other ∈ all.takeWhile (· ≠ form) ↔ other.rank < form.rank := by
  cases form <;> cases other <;> decide

end Form

/-- **The next lexeme is the longest text of the first form that has one.** -/
theorem Lexeme.next?_eq_some_iff_isLongest {cs rest : List Char} {lexeme : Lexeme} :
    Lexeme.next? cs = some (lexeme, rest) ↔
      cs = lexeme.spelling ++ rest ∧ lexeme.form.IsFirst cs ∧
        IsLongest lexeme.form.Language cs lexeme.spelling := by
  rw [next?_eq_some_iff_split?, Form.split?_eq_some_iff_isLongest]
  simp only [Form.split?_eq_none_iff_language, Form.mem_takeWhile_all_iff, Form.IsFirst]
  exact ⟨fun h => ⟨h.1.1, h.2, h.1.2⟩, fun h => ⟨⟨h.1, h.2.2⟩, h.2.1⟩⟩

/-! ### What is cut off means what it should -/

theorem unescape_cons {c : Char} {body : List Char}
    (hc : c = '\\' → ∀ d ∈ body.head?, d ≠ '"' ∧ d ≠ '\\') :
    unescape (c :: body) = c :: unescape body := by
  rw [unescape]
  · rintro rest rfl rfl
    exact (hc rfl '"' rfl).1 rfl
  · rintro rest rfl rfl
    exact (hc rfl '\\' rfl).2 rfl

theorem unescapes_iff {body value : List Char} : Unescapes body value ↔ unescape body = value := by
  constructor
  · intro h
    induction h with
    | nil => rfl
    | @escape c body value hc _ ih =>
      rcases hc with rfl | rfl
      · rw [unescape, ih]
      · rw [unescape, ih]
    | keep hc _ ih => rw [unescape_cons hc, ih]
  · rintro rfl
    fun_induction unescape body with
    | case1 => exact .nil
    | case2 rest ih => exact .escape (.inl rfl) ih
    | case3 rest ih => exact .escape (.inr rfl) ih
    | case4 c rest hquote hescape ih =>
      refine .keep (fun hc d hd => ?_) ih
      cases rest with
      | nil => cases hd
      | cons e rest =>
        cases hd
        exact ⟨fun he => hquote rest hc (he ▸ rfl), fun he => hescape rest hc (he ▸ rfl)⟩

namespace Form

variable {text : List Char} {token : Token}

theorem means_word : word.Means text (wordToken (.ofList text)) := by
  obtain ⟨hand, htoken⟩ | ⟨hor, htoken⟩ | ⟨hnot, htoken⟩ | ⟨hword, htoken⟩ :=
    wordToken_cases (.ofList text)
  · rw [htoken]
    exact .and hand
  · rw [htoken]
    exact .or hor
  · rw [htoken]
    exact .not hnot
  · rw [htoken]
    exact .keyword hword

theorem token_of_means {form : Form} (h : form.Means text token) : form.token text = token := by
  cases h with
  | escapedField hname hvalue => rw [token_escapedField hname, unescapes_iff.1 hvalue]
  | literalField hname => rw [token_literalField hname]
  | opening => rfl
  | closing => rfl
  | phrase => rw [token_phrase]
  | bareField hname => rw [token_bareField hname]
  | and htext => simp only [Form.token, wordToken, htext]
  | or htext => simp only [Form.token, wordToken, htext]
  | not htext => simp only [Form.token, wordToken, htext]
  | keyword htext =>
    simp only [operatorWords, List.mem_cons, List.not_mem_nil, or_false, not_or] at htext
    obtain ⟨hand, hor, hnot⟩ := htext
    simp only [Form.token, wordToken]

/-- **A text of a form stands for the token that the scanner makes of it, and for no other.** -/
theorem means_iff {form : Form} (h : form.Language text) :
    form.Means text token ↔ form.token text = token := by
  refine ⟨token_of_means, ?_⟩
  rintro rfl
  cases h with
  | escapedField hname =>
    rw [token_escapedField hname]
    exact .escapedField hname (unescapes_iff.2 rfl)
  | literalField hname =>
    rw [token_literalField hname]
    exact .literalField hname
  | opening => exact .opening
  | closing => exact .closing
  | phrase =>
    rw [token_phrase]
    exact .phrase
  | bareField hname =>
    rw [token_bareField hname]
    exact .bareField hname
  | word => exact means_word

end Form

/-! ### A whole text -/

/-- Induction on the cut: of each lexeme the rules say that the scanner finds it there. -/
theorem Cutting.scan {cs : List Char} {ls : List Lexeme} (h : Cutting cs ls) :
    Scan cs (ls.map Lexeme.token) := by
  induction h with
  | nil hblanks => exact .nil hblanks
  | @cons blanks rest lexeme ls hblanks hcuts _ ih =>
    obtain ⟨-, hfirst, hlongest⟩ :=
      Lexeme.next?_eq_some_iff_isLongest.1 (Lexeme.next?_eq_some_iff.2 ⟨rfl, hcuts⟩)
    have hstart : ∀ c ∈ (lexeme.spelling ++ rest).head?, isBlank c = false := by
      obtain ⟨c, tail, hspelling, hc⟩ := hcuts.exists_cons
      rw [hspelling]
      rintro d ⟨⟩
      exact hc
    have hmeans : lexeme.form.Means lexeme.spelling lexeme.token :=
      (Form.means_iff hlongest.mem).2 rfl
    exact .cons hblanks hstart hfirst hlongest hmeans ih

/-- Induction on the scan: the longest text of the first form is what the rules cut off. -/
theorem Scan.exists_cutting {cs : List Char} {tokens : List Token} (h : Scan cs tokens) :
    ∃ ls, Cutting cs ls ∧ ls.map Lexeme.token = tokens := by
  induction h with
  | nil hblanks => exact ⟨[], .nil hblanks, rfl⟩
  | @cons blanks spelling rest form token tokens hblanks _ hfirst hlongest hmeans _ ih =>
    obtain ⟨ls, hcutting, htokens⟩ := ih
    let lexeme : Lexeme := ⟨form, spelling⟩
    have hnext : Lexeme.next? (spelling ++ rest) = some (lexeme, rest) :=
      Lexeme.next?_eq_some_iff_isLongest.2 ⟨rfl, hfirst, hlongest⟩
    have htoken : lexeme.token = token := Form.token_of_means hmeans
    refine ⟨lexeme :: ls, .cons hblanks (Lexeme.next?_eq_some_iff.1 hnext).2 hcutting, ?_⟩
    rw [List.map_cons, htoken, htokens]

/-- **The tokens of a text are the ones that the scan of it says, and no others.** -/
theorem tokenize_eq_iff_scan {text : String} {tokens : List Token} :
    tokenize text = tokens ↔ Scan text.toList tokens := by
  constructor
  · rintro rfl
    exact (cutting_lexemes text.toList).scan
  · intro h
    obtain ⟨ls, hcutting, rfl⟩ := h.exists_cutting
    rw [tokenize, cutting_iff.1 hcutting]

end MailSearch.Query
