import MailSearch.Query.Token
import MailSearch.Text.Alphanumeric
import MailSearch.Text.Blank
import MailSearch.Text.Case

/-!
# Lexemes

How a query is cut into words. At each place seven forms of lexeme are tried in a fixed order, and the
first that fits there takes as much text as it can. Only blanks stand between lexemes, and every text
can be cut: what fits no other form is a word.

A form is defined by two functions. `Form.split?` cuts a lexeme of that form off the front of a text;
`Form.token` says what the lexeme means. `lexemes` repeats the cut to the end of the text, and
`tokenize` reads the meanings off.
-/

namespace MailSearch.Query

open Text

/-! ### Pieces of text -/

/-- A character that a bare word may hold: no blank and no parenthesis. -/
def isBare (c : Char) : Bool :=
  !isBlank c && c != '(' && c != ')'

/-- Cuts off a field name, the word characters before a colon, and the colon. -/
def splitName? (cs : List Char) : Option (List Char × List Char) :=
  match cs.takeWhile isWord, cs.dropWhile isWord with
  | c :: name, ':' :: rest => some (c :: name, rest)
  | _, _ => none

/-- Cuts off the text up to the next double quote, and the quote. -/
def splitLiteral? (cs : List Char) : Option (List Char × List Char) :=
  match cs.dropWhile (· != '"') with
  | [] => none
  | _ :: rest => some (cs.takeWhile (· != '"'), rest)

/-- Cuts off the text up to the next double quote that no backslash escapes, and the quote. -/
def splitEscaped? : List Char → Option (List Char × List Char)
  | [] => none
  | '"' :: rest => some ([], rest)
  | '\\' :: [] => none
  | '\\' :: c :: rest => (splitEscaped? rest).map fun (body, after) => ('\\' :: c :: body, after)
  | c :: rest => (splitEscaped? rest).map fun (body, after) => (c :: body, after)

/-- Drops the backslash before a double quote or a backslash; any other backslash stands for itself. -/
def unescape : List Char → List Char
  | [] => []
  | '\\' :: '"' :: rest => '"' :: unescape rest
  | '\\' :: '\\' :: rest => '\\' :: unescape rest
  | c :: rest => c :: unescape rest

/-! ### Forms -/

/-- The forms of a lexeme, in the order they are tried in. -/
inductive Form where
  /-- `name:"body"`, where the body may hold escapes. -/
  | escapedField
  /-- `name:"body"`, where a backslash is a backslash. -/
  | literalField
  | opening
  | closing
  /-- `"text"`. -/
  | phrase
  /-- `name:value`. -/
  | bareField
  | word
  deriving DecidableEq, Repr

namespace Form

def all : List Form :=
  [escapedField, literalField, opening, closing, phrase, bareField, word]

/-- Cuts a lexeme of a form off the front of a text. The two parts make up the text. -/
def split? (form : Form) (cs : List Char) : Option (List Char × List Char) :=
  match form with
  | escapedField =>
    match splitName? cs with
    | some (name, '"' :: rest) =>
      (splitEscaped? rest).map fun (body, after) => (name ++ ':' :: '"' :: body ++ ['"'], after)
    | _ => none
  | literalField =>
    match splitName? cs with
    | some (name, '"' :: rest) =>
      (splitLiteral? rest).map fun (body, after) => (name ++ ':' :: '"' :: body ++ ['"'], after)
    | _ => none
  | opening =>
    match cs with
    | '(' :: rest => some (['('], rest)
    | _ => none
  | closing =>
    match cs with
    | ')' :: rest => some ([')'], rest)
    | _ => none
  | phrase =>
    match cs with
    | '"' :: rest => (splitLiteral? rest).map fun (body, after) => ('"' :: body ++ ['"'], after)
    | _ => none
  | bareField =>
    match splitName? cs with
    | some (name, rest) =>
      match rest.takeWhile isBare with
      | [] => none
      | c :: value => some (name ++ ':' :: c :: value, rest.dropWhile isBare)
    | none => none
  | word =>
    match cs.takeWhile isBare with
    | [] => none
    | c :: text => some (c :: text, cs.dropWhile isBare)

/-- The operator that a word spells, in any letter case, or the word as a keyword. -/
def wordToken (text : String) : Token :=
  match lower text with
  | "and" => .and
  | "or" => .or
  | "not" => .not
  | _ => .keyword text

def token (form : Form) (spelling : List Char) : Token :=
  let name := spelling.takeWhile isWord
  let value := spelling.drop (name.length + 1)
  let raw := String.ofList spelling
  match form with
  | escapedField =>
    .field (String.ofList name) (String.ofList (unescape (value.drop 1).dropLast)) raw
  | literalField => .field (String.ofList name) (String.ofList (value.drop 1).dropLast) raw
  | opening => .lparen
  | closing => .rparen
  | phrase => .quoted (String.ofList (spelling.drop 1).dropLast)
  | bareField => .field (String.ofList name) (String.ofList value) raw
  | word => wordToken raw

end Form

/-! ### Cutting a text into lexemes -/

/-- A lexeme: its form and the text that spells it. -/
structure Lexeme where
  form : Form
  spelling : List Char
  deriving DecidableEq, Repr

namespace Lexeme

def token (lexeme : Lexeme) : Token :=
  lexeme.form.token lexeme.spelling

/-- The lexeme at the front of a text, of the first form that fits, and the text after it. -/
def next? (cs : List Char) : Option (Lexeme × List Char) :=
  Form.all.findSome? fun form =>
    (form.split? cs).map fun (spelling, rest) => (⟨form, spelling⟩, rest)

end Lexeme

/-! ### A cut shortens the text -/

/-- Where the body that is cut off is spelled out, the text after it stays the same. -/
theorem exists_body_of_map_eq_some (spell : List Char → List Char)
    {split : Option (List Char × List Char)} {spelling rest : List Char}
    (h : split.map (fun (body, after) => (spell body, after)) = some (spelling, rest)) :
    ∃ body, split = some (body, rest) ∧ spelling = spell body := by
  obtain ⟨⟨body, after⟩, hsplit, heq⟩ := Option.map_eq_some_iff.1 h
  simp only [Prod.mk.injEq] at heq
  obtain ⟨rfl, rfl⟩ := heq
  exact ⟨body, hsplit, rfl⟩

/-- A field name and its colon are cut off the front. -/
theorem splitName?_append {cs name rest : List Char} (h : splitName? cs = some (name, rest)) :
    name ++ ':' :: rest = cs := by
  unfold splitName? at h
  split at h
  · rename_i c name' rest' htake hdrop
    simp only [Option.some.injEq, Prod.mk.injEq] at h
    obtain ⟨rfl, rfl⟩ := h
    rw [← htake, ← hdrop, List.takeWhile_append_dropWhile]
  · simp at h

/-- A body up to a quote is cut off the front with the quote. -/
theorem splitLiteral?_append {cs body rest : List Char} (h : splitLiteral? cs = some (body, rest)) :
    body ++ '"' :: rest = cs := by
  unfold splitLiteral? at h
  split at h
  · simp at h
  · rename_i q rest' hdrop
    simp only [Option.some.injEq, Prod.mk.injEq] at h
    obtain ⟨rfl, rfl⟩ := h
    have hq : q = '"' := by
      have hfirst := List.head?_dropWhile_not (fun c => c != '"') cs
      simpa [hdrop] using hfirst
    subst hq
    rw [← hdrop, List.takeWhile_append_dropWhile]

/-- A body with escapes is cut off the front with the quote that ends it. -/
theorem splitEscaped?_append {cs body rest : List Char} (h : splitEscaped? cs = some (body, rest)) :
    body ++ '"' :: rest = cs := by
  fun_induction splitEscaped? cs generalizing body with
  | case1 => simp at h
  | case2 rest' => simp_all
  | case3 => simp at h
  | case4 c rest' ih =>
    obtain ⟨inner, hinner, rfl⟩ := exists_body_of_map_eq_some ('\\' :: c :: ·) h
    simp [ih hinner]
  | case5 c rest' _ _ _ ih =>
    obtain ⟨inner, hinner, rfl⟩ := exists_body_of_map_eq_some (c :: ·) h
    simp [ih hinner]

/-- The two forms of a field with its value in quotes differ in how they find the closing quote. -/
def splitQuotedField? (splitBody? : List Char → Option (List Char × List Char)) (cs : List Char) :
    Option (List Char × List Char) :=
  match splitName? cs with
  | some (name, '"' :: rest) =>
    (splitBody? rest).map fun (body, after) => (name ++ ':' :: '"' :: body ++ ['"'], after)
  | _ => none

theorem exists_of_splitQuotedField? {splitBody? : List Char → Option (List Char × List Char)}
    {cs spelling rest : List Char} (h : splitQuotedField? splitBody? cs = some (spelling, rest)) :
    ∃ name tail body, splitName? cs = some (name, '"' :: tail) ∧
      splitBody? tail = some (body, rest) ∧ spelling = name ++ ':' :: '"' :: body ++ ['"'] := by
  unfold splitQuotedField? at h
  split at h
  · rename_i name tail hname
    obtain ⟨body, hbody, hspelling⟩ :=
      exists_body_of_map_eq_some (fun body => name ++ ':' :: '"' :: body ++ ['"']) h
    exact ⟨name, tail, body, hname, hbody, hspelling⟩
  · cases h

namespace Form

variable {cs spelling rest : List Char}

theorem split?_escapedField (cs : List Char) :
    escapedField.split? cs = splitQuotedField? splitEscaped? cs := rfl

theorem split?_literalField (cs : List Char) :
    literalField.split? cs = splitQuotedField? splitLiteral? cs := rfl

/-- The value of a field that stands without quotes is cut off like a word. -/
theorem split?_bareField {name tail : List Char} (h : splitName? cs = some (name, tail)) :
    bareField.split? cs
      = (word.split? tail).map fun (value, rest) => (name ++ ':' :: value, rest) := by
  simp only [split?, h]
  cases tail.takeWhile isBare <;> rfl

/-- A field with its value in quotes is not empty and is cut off the front, if its body is. -/
theorem ne_nil_and_append_of_splitQuotedField?
    {splitBody? : List Char → Option (List Char × List Char)}
    (hbody : ∀ {tail body rest : List Char}, splitBody? tail = some (body, rest) →
      body ++ '"' :: rest = tail)
    (h : splitQuotedField? splitBody? cs = some (spelling, rest)) :
    spelling ≠ [] ∧ spelling ++ rest = cs := by
  obtain ⟨name, tail, body, hname, hsplit, rfl⟩ := exists_of_splitQuotedField? h
  refine ⟨by simp, ?_⟩
  rw [← splitName?_append hname, ← hbody hsplit]
  simp

theorem ne_nil_and_append_of_split?_word (h : word.split? cs = some (spelling, rest)) :
    spelling ≠ [] ∧ spelling ++ rest = cs := by
  simp only [split?] at h
  split at h
  · cases h
  · rename_i c text htext
    cases h
    refine ⟨List.cons_ne_nil c text, ?_⟩
    rw [← htext, List.takeWhile_append_dropWhile]

/-- A lexeme is not empty, and with the text after it makes up the text it was cut from. -/
theorem ne_nil_and_append_of_split? {form : Form} (h : form.split? cs = some (spelling, rest)) :
    spelling ≠ [] ∧ spelling ++ rest = cs := by
  cases form with
  | escapedField => exact ne_nil_and_append_of_splitQuotedField? splitEscaped?_append h
  | literalField => exact ne_nil_and_append_of_splitQuotedField? splitLiteral?_append h
  | opening | closing =>
    simp only [split?] at h
    split at h
    · cases h
      exact ⟨List.cons_ne_nil _ [], rfl⟩
    · cases h
  | phrase =>
    simp only [split?] at h
    split at h
    · obtain ⟨text, htext, rfl⟩ :=
        exists_body_of_map_eq_some (fun text => '"' :: text ++ ['"']) h
      refine ⟨by simp, ?_⟩
      rw [← splitLiteral?_append htext]
      simp
    · cases h
  | bareField =>
    cases hname : splitName? cs with
    | none => simp [split?, hname] at h
    | some split =>
      obtain ⟨name, tail⟩ := split
      rw [split?_bareField hname] at h
      obtain ⟨value, hvalue, rfl⟩ :=
        exists_body_of_map_eq_some (fun value => name ++ ':' :: value) h
      refine ⟨by simp, ?_⟩
      rw [← splitName?_append hname, ← (ne_nil_and_append_of_split?_word hvalue).2]
      simp
  | word => exact ne_nil_and_append_of_split?_word h

/-- A lexeme and the text after it make up the text it was cut from. -/
theorem split?_append {form : Form} (h : form.split? cs = some (spelling, rest)) :
    spelling ++ rest = cs :=
  (ne_nil_and_append_of_split? h).2

end Form

/-- The lexeme at the front of a text was cut off by its own form. -/
theorem Lexeme.split?_of_next? {cs rest : List Char} {lexeme : Lexeme}
    (h : Lexeme.next? cs = some (lexeme, rest)) :
    lexeme.form.split? cs = some (lexeme.spelling, rest) := by
  obtain ⟨form, _, hform⟩ := List.exists_of_findSome?_eq_some h
  obtain ⟨⟨spelling, after⟩, hsplit, he⟩ := Option.map_eq_some_iff.1 hform
  simp only [Prod.mk.injEq] at he
  obtain ⟨rfl, rfl⟩ := he
  exact hsplit

theorem Lexeme.length_of_next? {cs rest : List Char} {lexeme : Lexeme}
    (h : Lexeme.next? cs = some (lexeme, rest)) : rest.length < cs.length := by
  obtain ⟨hne, happend⟩ := Form.ne_nil_and_append_of_split? (Lexeme.split?_of_next? h)
  have hpos := List.length_pos_iff.2 hne
  rw [← happend, List.length_append]
  omega

-- `h` is consumed by `decreasing_by`, which the unused-variable linter does not see.
set_option linter.unusedVariables false in
/-- The lexemes of a text, in order; blanks between them are skipped. -/
def lexemes (cs : List Char) : List Lexeme :=
  match h : Lexeme.next? (cs.dropWhile isBlank) with
  | none => []
  | some (lexeme, rest) => lexeme :: lexemes rest
  termination_by cs.length
  decreasing_by
    have hshorter := Lexeme.length_of_next? h
    have hsuffix := (List.dropWhile_suffix isBlank (l := cs)).length_le
    omega

theorem lexemes_of_next?_none {cs : List Char}
    (h : Lexeme.next? (cs.dropWhile isBlank) = none) : lexemes cs = [] := by
  rw [lexemes]
  split
  · rfl
  · simp_all

/-- The lexemes of a text are the one at its front and those of the rest. -/
theorem lexemes_of_next? {cs rest : List Char} {lexeme : Lexeme}
    (h : Lexeme.next? (cs.dropWhile isBlank) = some (lexeme, rest)) :
    lexemes cs = lexeme :: lexemes rest := by
  rw [lexemes]
  split
  · simp_all
  · simp_all

def tokenize (text : String) : List Token :=
  (lexemes text.toList).map Lexeme.token

end MailSearch.Query
