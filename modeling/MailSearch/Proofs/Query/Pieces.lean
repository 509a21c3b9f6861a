import Mathlib.Data.List.TakeWhile
import MailSearch.Query.Lexeme

/-!
# Pieces of a query text

The scanner cuts a lexeme off in pieces: a field name, a body up to a quote, a bare word. Each piece
has an equation here that says which texts it can be cut from, by what the piece looks like and by
what may follow it: `splitName?_eq_some_iff`, `splitLiteral?_eq_some_iff` and
`splitEscaped?_eq_some_iff`.
-/

namespace MailSearch.Query

open Text

/-! ### Characters -/

theorem isWord_eq_false_of_isBlank {c : Char} (h : isBlank c = true) : isWord c = false :=
  forall_of_isBlank (p := (isWord · = false)) (by decide +kernel) h

/-- A field name is part of a bare word. -/
theorem isBare_of_isWord {c : Char} (h : isWord c = true) : isBare c = true := by
  cases hblank : isBlank c with
  | true => rw [isWord_eq_false_of_isBlank hblank] at h; cases h
  | false =>
    have hopening : c ≠ '(' := by rintro rfl; revert h; decide
    have hclosing : c ≠ ')' := by rintro rfl; revert h; decide
    simp [isBare, hblank, hopening, hclosing]

theorem isBlank_eq_false_of_isBare {c : Char} (h : isBare c = true) : isBlank c = false := by
  simp only [isBare, Bool.and_eq_true, Bool.not_eq_true'] at h
  exact h.1.1

/-! ### Pieces of text -/

/-- The name of a field: word characters, at least one. -/
def IsName (name : List Char) : Prop :=
  name ≠ [] ∧ ∀ c ∈ name, isWord c = true

/-- A bare word: characters that are no blank and no parenthesis, at least one. -/
def IsBareText (text : List Char) : Prop :=
  text ≠ [] ∧ ∀ c ∈ text, isBare c = true

/-- A bare word may end before this text: it is empty or goes on with a blank or a parenthesis. -/
def EndsWord (rest : List Char) : Prop :=
  ∀ c ∈ rest.head?, isBare c = false

/-- Every double quote has a backslash before it that no other backslash takes, and every backslash
has a character after it. -/
def isEscapedBody : List Char → Bool
  | [] => true
  | '"' :: _ => false
  | '\\' :: [] => false
  | '\\' :: _ :: rest => isEscapedBody rest
  | _ :: rest => isEscapedBody rest

/-- A run of characters of a class, and the text after it. -/
theorem takeWhile_eq_and_dropWhile_eq {p : Char → Bool} {run rest : List Char}
    (hrun : ∀ c ∈ run, p c = true) (hrest : ∀ c ∈ rest.head?, p c = false) :
    (run ++ rest).takeWhile p = run ∧ (run ++ rest).dropWhile p = rest := by
  rw [List.takeWhile_append_of_pos hrun, List.dropWhile_append_of_pos hrun]
  cases rest with
  | nil => simp
  | cons c rest =>
    have hc : p c = false := hrest c rfl
    simp [hc]

theorem splitName?_eq_none {c : Char} (h : isWord c = false) (cs : List Char) :
    splitName? (c :: cs) = none := by
  simp [splitName?, h]

theorem splitName?_eq_some_iff {cs name rest : List Char} :
    splitName? cs = some (name, rest) ↔ cs = name ++ ':' :: rest ∧ IsName name := by
  constructor
  · intro h
    refine ⟨(splitName?_append h).symm, ?_⟩
    unfold splitName? at h
    split at h
    · rename_i c name' rest' htake _
      simp only [Option.some.injEq, Prod.mk.injEq] at h
      obtain ⟨rfl, rfl⟩ := h
      refine ⟨List.cons_ne_nil _ _, fun d hd => ?_⟩
      rw [← htake] at hd
      exact List.mem_takeWhile_imp hd
    · cases h
  · rintro ⟨rfl, hne, hword⟩
    have hcolon : ∀ c ∈ (':' :: rest).head?, isWord c = false := by
      rintro c ⟨⟩
      decide
    obtain ⟨htake, hdrop⟩ := takeWhile_eq_and_dropWhile_eq hword hcolon
    obtain ⟨c, name, rfl⟩ := List.exists_cons_of_ne_nil hne
    simp only [splitName?, htake, hdrop]

/-- A text has one field name at its front at most. -/
theorem IsName.eq_of_append_eq {name name' tail tail' : List Char} (h : IsName name)
    (h' : IsName name') (heq : name ++ ':' :: tail = name' ++ ':' :: tail') :
    name = name' ∧ tail = tail' := by
  have hsplit := splitName?_eq_some_iff.2 ⟨heq, h'⟩
  rw [splitName?_eq_some_iff.2 ⟨rfl, h⟩] at hsplit
  simpa using hsplit

theorem splitLiteral?_eq_some_iff {cs body rest : List Char} :
    splitLiteral? cs = some (body, rest) ↔ cs = body ++ '"' :: rest ∧ '"' ∉ body := by
  constructor
  · intro h
    refine ⟨(splitLiteral?_append h).symm, fun hquote => ?_⟩
    unfold splitLiteral? at h
    split at h
    · cases h
    · simp only [Option.some.injEq, Prod.mk.injEq] at h
      rw [← h.1] at hquote
      simpa using List.mem_takeWhile_imp hquote
  · rintro ⟨rfl, hquote⟩
    have hbody : ∀ c ∈ body, (c != '"') = true := by
      intro c hc
      have hne : c ≠ '"' := fun heq => hquote (heq ▸ hc)
      simpa using hne
    have hrest : ∀ c ∈ ('"' :: rest).head?, (c != '"') = false := by
      rintro c ⟨⟩
      rfl
    obtain ⟨htake, hdrop⟩ := takeWhile_eq_and_dropWhile_eq hbody hrest
    simp only [splitLiteral?, htake, hdrop]

theorem splitLiteral?_eq_none_iff {cs : List Char} : splitLiteral? cs = none ↔ '"' ∉ cs := by
  constructor
  · intro h hquote
    obtain ⟨body, rest, rfl, hbody⟩ := List.eq_append_cons_of_mem hquote
    rw [splitLiteral?_eq_some_iff.2 ⟨rfl, hbody⟩] at h
    cases h
  · intro hquote
    cases h : splitLiteral? cs with
    | none => rfl
    | some split =>
      rw [← splitLiteral?_append h] at hquote
      simp at hquote

/-- A character that is no backslash at the end and none before another character is no
backslash. -/
theorem ne_backslash {c : Char} {cs : List Char} (hend : c = '\\' → cs = [] → False)
    (hescape : ∀ d rest, c = '\\' → cs = d :: rest → False) : c ≠ '\\' := by
  intro hc
  cases cs with
  | nil => exact hend hc rfl
  | cons d rest => exact hescape d rest hc rfl

theorem splitEscaped?_cons {c : Char} (hquote : c ≠ '"') (hescape : c ≠ '\\') (cs : List Char) :
    splitEscaped? (c :: cs)
      = (splitEscaped? cs).map fun (body, after) => (c :: body, after) := by
  rw [splitEscaped?]
  · exact hquote
  · exact fun h _ => hescape h
  · exact fun _ _ h _ => hescape h

theorem isEscapedBody_cons {c : Char} (hquote : c ≠ '"') (hescape : c ≠ '\\') (cs : List Char) :
    isEscapedBody (c :: cs) = isEscapedBody cs := by
  rw [isEscapedBody]
  · exact hquote
  · exact fun h _ => hescape h
  · exact fun _ _ h _ => hescape h

theorem splitEscaped?_eq_some_iff {cs body rest : List Char} :
    splitEscaped? cs = some (body, rest) ↔
      cs = body ++ '"' :: rest ∧ isEscapedBody body = true := by
  constructor
  · intro h
    refine ⟨(splitEscaped?_append h).symm, ?_⟩
    -- the reader and the predicate take a backslash and the character after it in one step
    fun_induction splitEscaped? cs generalizing body with
    | case1 => cases h
    | case2 rest' =>
      simp only [Option.some.injEq, Prod.mk.injEq] at h
      rw [← h.1]
      rfl
    | case3 => cases h
    | case4 c rest' ih =>
      obtain ⟨⟨inner, after⟩, hinner, heq⟩ := Option.map_eq_some_iff.1 h
      simp only [Prod.mk.injEq] at heq
      obtain ⟨rfl, rfl⟩ := heq
      show isEscapedBody inner = true
      exact ih hinner
    | case5 c rest' hquote hend hescape ih =>
      obtain ⟨⟨inner, after⟩, hinner, heq⟩ := Option.map_eq_some_iff.1 h
      simp only [Prod.mk.injEq] at heq
      obtain ⟨rfl, rfl⟩ := heq
      have hc : c ≠ '\\' := ne_backslash hend hescape
      rw [isEscapedBody_cons hquote hc]
      exact ih hinner
  · rintro ⟨rfl, hbody⟩
    fun_induction isEscapedBody body with
    | case1 => rfl
    | case2 => cases hbody
    | case3 => cases hbody
    | case4 c body ih => simp [splitEscaped?, ih hbody]
    | case5 c body hquote hend hescape ih =>
      have hc : c ≠ '\\' := ne_backslash hend hescape
      rw [List.cons_append, splitEscaped?_cons hquote hc, ih hbody]
      rfl

theorem splitEscaped?_eq_none_of_notMem {cs : List Char} (h : '"' ∉ cs) :
    splitEscaped? cs = none := by
  cases hsplit : splitEscaped? cs with
  | none => rfl
  | some split =>
    rw [← splitEscaped?_append hsplit] at h
    simp at h

end MailSearch.Query
