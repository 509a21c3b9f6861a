import MailSearch.Filter.Basic
import MailSearch.Proofs.Query.Spelling
import Mathlib.Data.List.Forall2

/-!
# Writing a query

A list of tokens can be written out as a text that is cut into these very tokens again
(`tokenize_intercalate_writtenAs`). A field term is written with its value in quotes, as a filter
string has it: then its value may be any text, and what comes after it makes no difference.

`Token.WrittenAs` says how each token may be written. Its condition on keywords leaves out those
that a text next to them could change: one that starts with a quote may find the quote closed, and
one that looks like a field is one.
-/

namespace MailSearch.Query

open Text

/-! ### Values in quotes -/

/-- Puts a backslash before one character, wherever it stands. -/
def escapeOnly (c : Char) (cs : List Char) : List Char :=
  cs.flatMap fun d => if d = c then ['\\', d] else [d]

/-- A field term with its value in quotes: the backslashes of the value are escaped, then its
quotes. -/
def writtenField (name value : String) : String :=
  name ++ ":\"" ++ String.ofList (escapeOnly '"' (escapeOnly '\\' value.toList)) ++ "\""

/-- Escaping takes two passes or one: no backslash of the first pass comes before a quote. -/
theorem escapeOnly_escapeOnly (cs : List Char) :
    escapeOnly '"' (escapeOnly '\\' cs) = Filter.escape cs := by
  induction cs with
  | nil => rfl
  | cons c cs ih =>
    have hcons : escapeOnly '"' (escapeOnly '\\' (c :: cs))
        = escapeOnly '"' (escapeOnly '\\' [c]) ++ escapeOnly '"' (escapeOnly '\\' cs) := by
      simp [escapeOnly]
    rw [hcons, ih, Filter.escape]
    by_cases hescape : c = '\\'
    · simp [escapeOnly, hescape]
    · by_cases hquote : c = '"'
      · simp [escapeOnly, hquote]
      · simp [escapeOnly, hescape, hquote]

/-- A value is written as a filter string has it. -/
theorem writtenField_eq (name value : String) :
    writtenField name value = name ++ ":" ++ Filter.quote value := by
  apply String.toList_inj.1
  simp [writtenField, Filter.quote, escapeOnly_escapeOnly]

theorem isEscapedBody_escape (cs : List Char) : isEscapedBody (Filter.escape cs) = true := by
  induction cs with
  | nil => rfl
  | cons c cs ih =>
    rw [Filter.escape]
    split
    · exact ih
    · rename_i hc
      obtain ⟨hescape, hquote⟩ := not_or.1 hc
      rwa [isEscapedBody_cons hquote hescape]

/-- **The value is read back.** Induction on the value. -/
theorem unescape_escape (cs : List Char) : unescape (Filter.escape cs) = cs := by
  induction cs with
  | nil => rfl
  | cons c cs ih =>
    rw [Filter.escape]
    split
    · rename_i hc
      rcases hc with rfl | rfl
      · rw [unescape, ih]
      · rw [unescape, ih]
    · rename_i hc
      rw [unescape, ih]
      · exact fun rest hescape _ => hc (.inl hescape)
      · exact fun rest hescape _ => hc (.inl hescape)

/-! ### Tokens -/

/-- How a token may be written. An operator may be written in any letter case. -/
inductive Token.WrittenAs : Token → String → Prop
  | field {name : String} (value : String) (hname : IsName name.toList) :
      WrittenAs (.field name value (writtenField name value)) (writtenField name value)
  | quoted {text : String} (htext : '"' ∉ text.toList) :
      WrittenAs (.quoted text) ("\"" ++ text ++ "\"")
  | and {text : String} (htext : lower text = "and") : WrittenAs .and text
  | or {text : String} (htext : lower text = "or") : WrittenAs .or text
  | not {text : String} (htext : lower text = "not") : WrittenAs .not text
  | lparen : WrittenAs .lparen "("
  | rparen : WrittenAs .rparen ")"
  | keyword {text : String} (htext : IsBareText text.toList) (hword : lower text ∉ operatorWords)
      (hquote : text.toList.head? ≠ some '"')
      (hname : ∀ name value : List Char,
        text.toList = name ++ ':' :: value → IsName name → value = []) :
      WrittenAs (.keyword text) text

/-- A letter is part of a bare word in either case. -/
theorem isBare_of_isBare_toLower {c : Char} (h : isBare c.toLower = true) : isBare c = true := by
  have hupper : ∀ n < 26, isBare (Char.ofNat ('A'.toNat + n)) = true := by decide
  unfold Char.toLower at h
  split at h
  · rename_i hrange
    obtain ⟨hlow, hhigh⟩ := hrange
    have hlow : 'A'.toNat ≤ c.toNat := hlow
    have hhigh : c.toNat ≤ 'Z'.toNat := hhigh
    have hlast : 'Z'.toNat = 'A'.toNat + 25 := by decide
    have hletter := hupper (c.toNat - 'A'.toNat) (by omega)
    rwa [Nat.add_sub_of_le hlow, Char.ofNat_toNat] at hletter
  · exact h

/-- An operator word is cut off as a word, whatever its letter case. -/
theorem Form.cuts_operator {text operator : String} {rest : List Char}
    (htext : lower text = operator) (hoperator : operator ∈ operatorWords)
    (hrest : EndsWord rest) : word.Cuts text.toList rest := by
  have hwords : ∀ operator ∈ operatorWords, operator ≠ "" ∧
      operator.toList.all (fun d => isBare d && d != ':' && d != '"') = true := by
    decide
  obtain ⟨hne, hall⟩ := hwords operator hoperator
  have hletters : ∀ d ∈ operator.toList, (isBare d = true ∧ d ≠ ':') ∧ d ≠ '"' := by
    simpa using hall
  have hlower {c : Char} (hc : c ∈ text.toList) : c.toLower ∈ operator.toList := by
    rw [← htext, toList_lower]
    exact List.mem_map_of_mem hc
  refine .word ⟨?_, fun c hc => ?_⟩ hrest (fun tail htail => ?_) fun name value hvalue _ => ?_
  · rintro hnil
    apply hne
    rw [← htext, lower, hnil]
    rfl
  · exact isBare_of_isBare_toLower (hletters _ (hlower hc)).1.1
  · have hquote : '"' ∈ text.toList := by simp [htail]
    exact absurd rfl (hletters _ (hlower hquote)).2
  · have hcolon : ':' ∈ text.toList := by simp [hvalue]
    exact absurd rfl (hletters _ (hlower hcolon)).1.2

/-- A text is cut off as one lexeme of the token, before any text that a bare word may end at. -/
def Token.IsCutFrom (token : Token) (text : String) : Prop :=
  ∃ form : Form, form.token text.toList = token ∧
    ∀ rest : List Char, EndsWord rest → form.Cuts text.toList rest

/-- **What is written is cut off as one lexeme.** -/
theorem Token.WrittenAs.isCutFrom {token : Token} {text : String} (h : token.WrittenAs text) :
    token.IsCutFrom text := by
  have hofList : String.ofList text.toList = text := String.ofList_toList
  cases h with
  | @field name value hname =>
    have hspelling : (writtenField name value).toList
        = name.toList ++ ':' :: '"' :: Filter.escape value.toList ++ ['"'] := by
      simp [writtenField_eq, Filter.quote]
    refine ⟨.escapedField, ?_, fun rest _ => ?_⟩
    · rw [hspelling, Form.token_escapedField hname, unescape_escape, ← hspelling]
      simp
    · rw [hspelling]
      exact .escapedField hname (isEscapedBody_escape value.toList)
  | @quoted text htext =>
    have hspelling : ("\"" ++ text ++ "\"").toList = '"' :: text.toList ++ ['"'] := by simp
    refine ⟨.phrase, ?_, fun rest _ => ?_⟩
    · rw [hspelling, Form.token_phrase, String.ofList_toList]
    · rw [hspelling]
      exact .phrase htext
  | and htext =>
    refine ⟨.word, ?_, fun rest => Form.cuts_operator htext (by decide)⟩
    simp only [Form.token, hofList, Form.wordToken, htext]
  | or htext =>
    refine ⟨.word, ?_, fun rest => Form.cuts_operator htext (by decide)⟩
    simp only [Form.token, hofList, Form.wordToken, htext]
  | not htext =>
    refine ⟨.word, ?_, fun rest => Form.cuts_operator htext (by decide)⟩
    simp only [Form.token, hofList, Form.wordToken, htext]
  | lparen => exact ⟨.opening, rfl, fun rest _ => .opening⟩
  | rparen => exact ⟨.closing, rfl, fun rest _ => .closing⟩
  | keyword htext hword hquote hname =>
    refine ⟨.word, ?_, fun rest hrest => .word htext hrest (fun tail htail => ?_) hname⟩
    · simp only [operatorWords, List.mem_cons, List.not_mem_nil, or_false, not_or] at hword
      obtain ⟨hand, hor, hnot⟩ := hword
      simp only [Form.token, hofList, Form.wordToken]
    · rw [htail] at hquote
      exact absurd rfl hquote

/-! ### A whole query -/

/-- Pieces with a blank before each end a bare word. -/
theorem endsWord_flatMap_blank (pieces : List (List Char)) :
    EndsWord (pieces.flatMap fun piece => ' ' :: piece) := by
  cases pieces with
  | nil => simp [EndsWord]
  | cons piece pieces =>
    rintro c ⟨⟩
    decide

/-- Written with a blank before each, tokens are cut into lexemes of their own. Induction on the
tokens, of which each but the last is followed by a blank. -/
theorem exists_cutting_of_isCutFrom {tokens : List Token} {texts : List String}
    (h : List.Forall₂ Token.IsCutFrom tokens texts) :
    ∃ ls, Cutting ((texts.map String.toList).flatMap fun piece => ' ' :: piece) ls ∧
      ls.map Lexeme.token = tokens := by
  induction h with
  | nil => exact ⟨[], .nil (by simp), rfl⟩
  | @cons token text tokens texts hcut _ ih =>
    obtain ⟨ls, hcutting, htokens⟩ := ih
    obtain ⟨form, htoken, hcuts⟩ := hcut
    let lexeme : Lexeme := ⟨form, text.toList⟩
    have hblank : ∀ c ∈ [' '], isBlank c = true := List.forall_mem_singleton.2 (by decide)
    have hlexeme : lexeme.form.Cuts lexeme.spelling _ :=
      hcuts _ (endsWord_flatMap_blank (texts.map String.toList))
    refine ⟨lexeme :: ls, .cons hblank hlexeme hcutting, ?_⟩
    rw [List.map_cons, htokens]
    exact congrArg (· :: tokens) htoken

/-- Texts that are cut off as tokens are cut into these tokens side by side, with a blank between
them. -/
theorem tokenize_intercalate_isCutFrom {tokens : List Token} {texts : List String}
    (h : List.Forall₂ Token.IsCutFrom tokens texts) :
    tokenize (" ".intercalate texts) = tokens := by
  obtain ⟨ls, hcutting, htokens⟩ := exists_cutting_of_isCutFrom h
  have hlist : (" ".intercalate texts).toList = [' '].intercalate (texts.map String.toList) := by
    rw [String.toList_intercalate]
    rfl
  rw [tokenize, hlist, lexemes_intercalate, cutting_iff.1 hcutting, htokens]

/-- **Tokens that are written out are read back.** Whatever tokens are written side by side, with a
blank between them, the text is cut into exactly these tokens. -/
theorem tokenize_intercalate_writtenAs {tokens : List Token} {texts : List String}
    (h : List.Forall₂ Token.WrittenAs tokens texts) :
    tokenize (" ".intercalate texts) = tokens :=
  tokenize_intercalate_isCutFrom (h.imp fun _ _ hwritten => hwritten.isCutFrom)

/-- A value with a quote, a backslash at its end and the word of an operator, between other tokens
that hold a quote. -/
theorem tokenize_intercalate_writtenAs_quotes :
    let tokens : List Token := [.lparen, .field "path" "a\" OR b\\" "path:\"a\\\" OR b\\\\\"", .or,
      .keyword "a\"b:", .quoted "c) NOT\\", .rparen]
    let texts := ["(", "path:\"a\\\" OR b\\\\\"", "oR", "a\"b:", "\"c) NOT\\\"", ")"]
    List.Forall₂ Token.WrittenAs tokens texts ∧ tokenize (" ".intercalate texts) = tokens := by
  intro tokens texts
  have hname : IsName "path".toList := ⟨by decide, List.all_eq_true.1 (by decide)⟩
  have hfield : Token.WrittenAs (.field "path" "a\" OR b\\" "path:\"a\\\" OR b\\\\\"")
      "path:\"a\\\" OR b\\\\\"" := .field "a\" OR b\\" hname
  have hkeyword : Token.WrittenAs (.keyword "a\"b:") "a\"b:" := by
    have htext : IsBareText "a\"b:".toList := ⟨by decide, List.all_eq_true.1 (by decide)⟩
    refine .keyword htext (by decide) (by decide) fun name value hvalue hname => ?_
    -- the quote keeps what is before the colon from being a name
    have hnone : splitName? "a\"b:".toList = none := by decide
    rw [splitName?_eq_some_iff.2 ⟨hvalue, hname⟩] at hnone
    cases hnone
  have hwritten : List.Forall₂ Token.WrittenAs tokens texts :=
    .cons .lparen <| .cons hfield <| .cons (.or (by decide)) <| .cons hkeyword <|
      .cons (.quoted (by decide)) <| .cons .rparen .nil
  exact ⟨hwritten, tokenize_intercalate_writtenAs hwritten⟩

end MailSearch.Query
