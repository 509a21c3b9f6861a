import MailSearch.Filter.Render
import MailSearch.Text.Numeral

/-!
# Words of a filter string

What a search engine that takes filter strings sees first: parentheses, the words AND, OR and NOT,
the comparison symbols, attribute names, and values. A value is a text in double quotes, where a
backslash stands only before a backslash or a quote, or one of the words `true` and `false`, or a
decimal integer. Blanks separate words and mean nothing else. `lex` cuts a whole string into such
words or fails.

A string can be lexed in pieces: `lex_append` says that the words of two pieces are the words of the
whole, provided that the second piece starts with a character that ends every word. So a text value
cannot reach out of its quotes, whatever it holds (`lex_quote`).
-/

namespace MailSearch.FilterString

/-- A value that an attribute is compared with. -/
inductive Literal where
  | text (value : String)
  | bool (value : Bool)
  | int (value : Int)
  deriving DecidableEq, Repr

/-- A word of a filter string. -/
inductive Lexeme where
  | opening
  | closing
  | and
  | or
  | not
  | symbol (operator : Operator)
  | attribute (name : String)
  | literal (value : Literal)
  deriving DecidableEq, Repr

/-! ## Cutting words off -/

/-- The characters that a word without quotes is made of. -/
def isPlain (c : Char) : Bool :=
  !c.isWhitespace && !(['(', ')', '"', '=', '<', '>'].contains c)

/-- Reads digits as a number; there has to be one at least. -/
def readDigits? (cs : List Char) : Option Nat :=
  if cs ≠ [] ∧ cs.all Char.isDigit then some (Nat.ofDigitChars 10 cs 0) else none

/-- Reads a decimal integer, with a minus sign or without a sign. -/
def readInt? : List Char → Option Int
  | '-' :: cs => (readDigits? cs).map fun n : Nat => -(n : Int)
  | cs => (readDigits? cs).map fun n : Nat => (n : Int)

/-- What a word without quotes is. -/
def Lexeme.ofWord (cs : List Char) : Lexeme :=
  match readInt? cs with
  | some n => .literal (.int n)
  | none =>
    match String.ofList cs with
    | "AND" => .and
    | "OR" => .or
    | "NOT" => .not
    | "true" => .literal (.bool true)
    | "false" => .literal (.bool false)
    | name => .attribute name

/-- Reads a text up to the quote that closes it, and cuts that off too. -/
def readText? : List Char → Option (List Char × List Char)
  | [] => none
  | '"' :: rest => some ([], rest)
  | '\\' :: '\\' :: rest => (readText? rest).map fun (text, after) => ('\\' :: text, after)
  | '\\' :: '"' :: rest => (readText? rest).map fun (text, after) => ('"' :: text, after)
  | '\\' :: _ => none
  | c :: rest => (readText? rest).map fun (text, after) => (c :: text, after)

/-- Cuts off the word at the front, where no blank is. -/
def next? : List Char → Option (Lexeme × List Char)
  | [] => none
  | '(' :: rest => some (.opening, rest)
  | ')' :: rest => some (.closing, rest)
  | '=' :: rest => some (.symbol .eq, rest)
  | '<' :: '=' :: rest => some (.symbol .lte, rest)
  | '<' :: rest => some (.symbol .lt, rest)
  | '>' :: '=' :: rest => some (.symbol .gte, rest)
  | '>' :: rest => some (.symbol .gt, rest)
  | '"' :: rest =>
    (readText? rest).map fun (text, after) => (.literal (.text (String.ofList text)), after)
  | c :: rest => some (.ofWord (c :: rest.takeWhile isPlain), rest.dropWhile isPlain)

theorem length_of_readText? {cs text after : List Char} (h : readText? cs = some (text, after)) :
    after.length < cs.length := by
  fun_induction readText? cs generalizing text with
  | case1 => simp at h
  | case2 rest =>
    simp only [Option.some.injEq, Prod.mk.injEq] at h
    simp [← h.2]
  | case5 => simp at h
  | case3 rest ih | case4 rest ih | case6 c rest _ _ _ _ ih =>
    obtain ⟨⟨t, a⟩, ht, he⟩ := Option.map_eq_some_iff.1 h
    simp only [Prod.mk.injEq] at he
    have hshorter := ih (he.2 ▸ ht)
    simp only [List.length_cons]
    omega

theorem length_of_next? {cs after : List Char} {lexeme : Lexeme}
    (h : next? cs = some (lexeme, after)) : after.length < cs.length := by
  unfold next? at h
  split at h
  · simp at h
  case h_9 rest =>
    obtain ⟨⟨t, a⟩, ht, he⟩ := Option.map_eq_some_iff.1 h
    simp only [Prod.mk.injEq] at he
    have hshorter := length_of_readText? (he.2 ▸ ht)
    simp only [List.length_cons]
    omega
  case h_10 c rest _ _ _ _ _ _ _ _ =>
    simp only [Option.some.injEq, Prod.mk.injEq] at h
    have hsuffix := (List.dropWhile_suffix isPlain (l := rest)).length_le
    rw [← h.2, List.length_cons]
    omega
  all_goals
    simp only [Option.some.injEq, Prod.mk.injEq] at h
    simp only [← h.2, List.length_cons]
    omega

-- `h` and `hcs` are consumed by `decreasing_by`, which the unused-variable linter does not see.
set_option linter.unusedVariables false in
/-- The words of a filter string, as a list of characters. -/
def lexemes? (cs : List Char) : Option (List Lexeme) :=
  match hcs : cs.dropWhile Char.isWhitespace with
  | [] => some []
  | c :: rest =>
    match h : next? (c :: rest) with
    | none => none
    | some (lexeme, after) => (lexemes? after).map (lexeme :: ·)
  termination_by cs.length
  decreasing_by
    have hshorter := length_of_next? h
    have hsuffix := (List.dropWhile_suffix Char.isWhitespace (l := cs)).length_le
    rw [hcs] at hsuffix
    omega

/-- The words of a filter string. -/
def lex (text : String) : Option (List Lexeme) :=
  lexemes? text.toList

/-- Unfolding equation for `lexemes?`, without the proofs that its termination needs. -/
theorem lexemes?_eq (cs : List Char) :
    lexemes? cs =
      match cs.dropWhile Char.isWhitespace with
      | [] => some []
      | c :: rest => (next? (c :: rest)).bind fun next => (lexemes? next.2).map (next.1 :: ·) := by
  rw [lexemes?]
  split
  · rename_i hcs
    rw [hcs]
  · rename_i c rest hcs
    rw [hcs]
    split
    · rename_i h
      simp [h]
    · rename_i h
      simp [h]

/-! ## Lexing in pieces -/

/-- Blanks at the front mean nothing: only what is left without them counts. -/
theorem lexemes?_congr {cs ds : List Char}
    (h : cs.dropWhile Char.isWhitespace = ds.dropWhile Char.isWhitespace) :
    lexemes? cs = lexemes? ds := by
  rw [lexemes?_eq, lexemes?_eq ds, h]

/-- The words of a string are the one at its front and those of the rest. -/
theorem lexemes?_of_next? {cs after : List Char} {lexeme : Lexeme}
    (h : next? (cs.dropWhile Char.isWhitespace) = some (lexeme, after)) :
    lexemes? cs = (lexemes? after).map (lexeme :: ·) := by
  rw [lexemes?_eq]
  cases hcs : cs.dropWhile Char.isWhitespace with
  | nil =>
    -- nothing is left after the blanks, so there is no word
    simp [hcs, next?] at h
  | cons c rest =>
    rw [hcs] at h
    simp only [h, Option.bind_some]

/-- Whether a string starts with a character that ends every word before it, if it starts at all. -/
def BreaksWord (cs : List Char) : Prop :=
  ∀ c ∈ cs.head?, isPlain c = false ∧ c ≠ '='

theorem readText?_append {cs text after : List Char} (h : readText? cs = some (text, after))
    (more : List Char) : readText? (cs ++ more) = some (text, after ++ more) := by
  fun_induction readText? cs generalizing text with
  | case1 => simp at h
  | case2 rest => simp_all [readText?]
  | case3 rest ih | case4 rest ih =>
    obtain ⟨⟨t, a⟩, ht, he⟩ := Option.map_eq_some_iff.1 h
    simp only [Prod.mk.injEq] at he
    obtain ⟨rfl, rfl⟩ := he
    simp [readText?, ih ht]
  | case5 => simp at h
  | case6 c rest h₁ h₂ h₃ h₄ ih =>
    obtain ⟨⟨t, a⟩, ht, he⟩ := Option.map_eq_some_iff.1 h
    simp only [Prod.mk.injEq] at he
    obtain ⟨rfl, rfl⟩ := he
    simp_all [readText?]

/-- A word without quotes ends where one that breaks it begins. -/
theorem splitPlain_append {more : List Char} (hmore : BreaksWord more) (cs : List Char) :
    (cs ++ more).takeWhile isPlain = cs.takeWhile isPlain ∧
      (cs ++ more).dropWhile isPlain = cs.dropWhile isPlain ++ more := by
  induction cs with
  | nil =>
    cases more with
    | nil => simp
    | cons c more =>
      have hc : isPlain c = false := (hmore c rfl).1
      simp [hc]
  | cons c cs ih =>
    cases hc : isPlain c with
    | true => simp [hc, ih]
    | false => simp [hc]

/-- The word at the front is the same whatever follows, if that breaks words. -/
theorem next?_append {cs after more : List Char} {lexeme : Lexeme}
    (h : next? cs = some (lexeme, after)) (hmore : BreaksWord more) :
    next? (cs ++ more) = some (lexeme, after ++ more) := by
  unfold next? at h
  split at h
  case h_1 => simp at h
  case h_6 rest hrest | h_8 rest hrest =>
    -- the symbol stays as short as it is: no `=` comes after it from behind
    have hne : ∀ tail, rest ++ more = '=' :: tail → False := by
      intro tail htail
      cases rest with
      | nil =>
        rw [List.nil_append] at htail
        exact (hmore '=' (by rw [htail]; rfl)).2 rfl
      | cons c rest => exact hrest rest (by rw [(List.cons.inj htail).1])
    simp only [Option.some.injEq, Prod.mk.injEq] at h
    obtain ⟨rfl, rfl⟩ := h
    rw [List.cons_append, next?]
    exact hne
  case h_9 rest =>
    obtain ⟨⟨t, a⟩, ht, he⟩ := Option.map_eq_some_iff.1 h
    simp only [Prod.mk.injEq] at he
    obtain ⟨rfl, rfl⟩ := he
    simp [next?, readText?_append ht more]
  case h_10 c rest h₁ h₂ h₃ h₄ h₅ h₆ h₇ h₈ =>
    -- a word without quotes: no other pattern fits it, and none does with more behind it
    simp only [Option.some.injEq, Prod.mk.injEq] at h
    obtain ⟨rfl, rfl⟩ := h
    obtain ⟨htake, hdrop⟩ := splitPlain_append hmore rest
    rw [← htake, ← hdrop, List.cons_append, next?]
    · exact h₁
    · exact h₂
    · exact h₃
    · exact fun _ hc _ => h₅ hc
    · exact h₅
    · exact fun _ hc _ => h₇ hc
    · exact h₇
    · exact h₈
  -- the parentheses and the symbols that are complete
  all_goals
    simp only [Option.some.injEq, Prod.mk.injEq] at h
    obtain ⟨rfl, rfl⟩ := h
    rfl

/-- **A string can be lexed in pieces.** The words of a first piece are words of the whole, whatever
follows, if that breaks words. Induction on the words of the first piece. -/
theorem lexemes?_append {cs more : List Char} {before : List Lexeme}
    (h : lexemes? cs = some before) (hmore : BreaksWord more) :
    lexemes? (cs ++ more) = (lexemes? more).map (before ++ ·) := by
  fun_induction lexemes? cs generalizing before with
  | case1 cs hcs =>
    obtain rfl := Option.some.inj h
    -- only blanks were left of the first piece
    have hdrop : (cs ++ more).dropWhile Char.isWhitespace = more.dropWhile Char.isWhitespace := by
      rw [List.dropWhile_append, hcs, List.isEmpty_nil, if_pos rfl]
    rw [lexemes?_congr hdrop]
    simp
  | case2 => simp at h
  | case3 cs c rest hcs lexeme after hnext ih =>
    obtain ⟨tail, htail, rfl⟩ := Option.map_eq_some_iff.1 h
    have hdrop : (cs ++ more).dropWhile Char.isWhitespace = (c :: rest) ++ more := by
      rw [List.dropWhile_append, hcs, List.isEmpty_cons, if_neg Bool.false_ne_true]
    rw [lexemes?_of_next? (hdrop ▸ next?_append hnext hmore), ih htail, Option.map_map]
    rfl

variable {s t : String} {before after : List Lexeme}

/-- Two strings side by side, the second of which breaks words, have the words of both. -/
theorem lex_append (hs : lex s = some before) (ht : lex t = some after)
    (hbreaks : BreaksWord t.toList) : lex (s ++ t) = some (before ++ after) := by
  rw [lex, String.toList_append, lexemes?_append hs hbreaks]
  rw [lex] at ht
  rw [ht, Option.map_some]

theorem breaksWord_blank (cs : List Char) : BreaksWord (' ' :: cs) := by
  intro c hc
  obtain rfl := Option.some.inj hc
  decide

/-- A blank in front of a string is no word of it. -/
theorem lex_blank (t : String) : lex (" " ++ t) = lex t := by
  rw [lex, lex, String.toList_append]
  exact lexemes?_congr rfl

theorem lex_word (hs : lex s = some before) (ht : lex t = some after) :
    lex (s ++ " " ++ t) = some (before ++ after) := by
  rw [String.append_assoc]
  refine lex_append hs ((lex_blank t).trans ht) ?_
  rw [String.toList_append]
  exact breaksWord_blank t.toList

theorem lex_parentheses (hs : lex s = some before) :
    lex ("(" ++ s ++ ")") = some (.opening :: (before ++ [.closing])) := by
  have hinner : lex (s ++ ")") = some (before ++ [.closing]) := by
    refine lex_append hs (by decide +kernel) ?_
    intro c hc
    obtain rfl := Option.some.inj hc
    decide
  have hopening : lexemes? ('(' :: (s ++ ")").toList)
      = (lexemes? (s ++ ")").toList).map (.opening :: ·) :=
    lexemes?_of_next? rfl
  rw [String.append_assoc, lex, String.toList_append]
  rw [lex] at hinner
  exact hopening.trans (by rw [hinner, Option.map_some])

/-! ## Values -/

/-- What is escaped is read back, up to the quote that closes it. Induction on the text. -/
theorem readText?_escape (cs rest : List Char) :
    readText? (Filter.escape cs ++ '"' :: rest) = some (cs, rest) := by
  induction cs with
  | nil => rfl
  | cons c cs ih =>
    by_cases hbackslash : c = '\\'
    · subst hbackslash
      simp [Filter.escape, readText?, ih]
    by_cases hquote : c = '"'
    · subst hquote
      simp [Filter.escape, readText?, ih]
    simp [Filter.escape, readText?, hbackslash, hquote, ih]

/-- **A text in quotes is one word**, whatever quotes, backslashes, parentheses or operators it
holds. -/
theorem lex_quote (text : String) : lex (Filter.quote text) = some [.literal (.text text)] := by
  have hnext : next? ('"' :: Filter.escape text.toList ++ ['"'])
      = some (.literal (.text text), []) := by
    rw [List.cons_append, next?, readText?_escape]
    simp
  rw [lex, Filter.quote, String.toList_ofList]
  have hdrop : ('"' :: Filter.escape text.toList ++ ['"']).dropWhile Char.isWhitespace
      = '"' :: Filter.escape text.toList ++ ['"'] := rfl
  rw [lexemes?_of_next? (hdrop ▸ hnext), lexemes?_eq]
  rfl

/-- A string of word characters is one word. -/
theorem lexemes?_plain {cs : List Char} (hne : cs ≠ []) (hplain : ∀ c ∈ cs, isPlain c = true) :
    lexemes? cs = some [.ofWord cs] := by
  cases cs with
  | nil => exact absurd rfl hne
  | cons c rest =>
    simp only [List.mem_cons, forall_eq_or_imp] at hplain
    obtain ⟨hc, hrest⟩ := hplain
    have htake : rest.takeWhile isPlain = rest := by
      have happend : (rest ++ []).takeWhile isPlain = _ := List.takeWhile_append_of_pos hrest
      simpa using happend
    have hdrop : rest.dropWhile isPlain = [] := by
      have happend : (rest ++ []).dropWhile isPlain = _ := List.dropWhile_append_of_pos hrest
      simpa using happend
    have hblank : c.isWhitespace = false := by
      simp only [isPlain, Bool.and_eq_true, Bool.not_eq_true'] at hc
      exact hc.1
    have hnext : next? (c :: rest) = some (.ofWord (c :: rest), []) := by
      rw [next?, htake, hdrop]
      -- the characters that stand for themselves are no word characters
      all_goals
        intros
        subst c
        revert hc
        decide
    rw [lexemes?_of_next? (by rw [List.dropWhile_cons_of_neg (by simp [hblank])]; exact hnext),
      lexemes?_eq]
    rfl

theorem isPlain_of_isDigit {c : Char} (h : c.isDigit = true) : isPlain c = true := by
  have hne (d : Char) (hd : d.isDigit = false) : c ≠ d := by
    rintro rfl
    rw [h] at hd
    cases hd
  simp [isPlain, Char.isWhitespace, hne ' ' rfl, hne '\t' rfl, hne '\r' rfl, hne '\n' rfl,
    hne '(' rfl, hne ')' rfl, hne '"' rfl, hne '=' rfl, hne '<' rfl, hne '>' rfl]

theorem readDigits?_toDigits (n : Nat) : readDigits? (Nat.toDigits 10 n) = some n := by
  have hdigits : (Nat.toDigits 10 n).all Char.isDigit := by
    rw [List.all_eq_true]
    exact fun c hc => Nat.isDigit_of_mem_toDigits (by decide) (by decide) hc
  rw [readDigits?, if_pos ⟨Nat.toDigits_ne_nil, hdigits⟩, Nat.ofDigitChars_ten_toDigits]

/-- A printed integer is read back. -/
theorem readInt?_toString (n : Int) : readInt? (toString n).toList = some n := by
  rw [Text.toList_toString]
  split
  · show (readDigits? (Nat.toDigits 10 n.natAbs)).map (fun k : Nat => -(k : Int)) = some n
    rw [readDigits?_toDigits, Option.map_some]
    congr 1
    omega
  · rw [List.nil_append, readInt?, readDigits?_toDigits, Option.map_some]
    · congr 1
      omega
    · -- no digit is a minus sign
      intro cs hcs
      have hminus : ('-').isDigit = true := by
        refine Nat.isDigit_of_mem_toDigits (b := 10) (n := n.natAbs) (by decide) (by decide) ?_
        rw [hcs]
        exact List.mem_cons_self
      cases hminus

/-- **An integer is one word.** -/
theorem lex_int (n : Int) : lex (toString n) = some [.literal (.int n)] := by
  have hne : (toString n).toList ≠ [] := by
    rw [Text.toList_toString]
    exact List.append_ne_nil_of_right_ne_nil _ Nat.toDigits_ne_nil
  have hplain : ∀ c ∈ (toString n).toList, isPlain c = true := by
    intro c hc
    rw [Text.toList_toString, List.mem_append] at hc
    rcases hc with hc | hc
    · split at hc
      · rw [List.mem_singleton.1 hc]; rfl
      · cases hc
    · exact isPlain_of_isDigit (Nat.isDigit_of_mem_toDigits (by decide) (by decide) hc)
  rw [lex, lexemes?_plain hne hplain, Lexeme.ofWord, readInt?_toString]

theorem lex_bool (value : Bool) :
    lex (if value then "true" else "false") = some [.literal (.bool value)] := by
  cases value <;> decide +kernel

end MailSearch.FilterString
