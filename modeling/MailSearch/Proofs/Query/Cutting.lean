import MailSearch.Proofs.Query.Pieces

/-!
# How a query is cut into lexemes

What each form of lexeme looks like, and where it ends, said without the scanner. `Form.Cuts` is one
rule for each form: how a lexeme of that form is spelled, and what may not come after it for that
form to be the first that fits. `Cutting` puts lexemes side by side, with blanks between them.

The scanner does what the rules say: `Lexeme.next?_eq_some_iff` is the cut of one lexeme, and
`cutting_iff` the cut of a whole text. So a text that can be cut by the rules can be cut in one way
only, and facts about the words of a query follow by cases on the rules.
-/

namespace MailSearch.Query

open Text

/-! ### One lexeme -/

/-- How a lexeme of a form is spelled, and the texts that it is cut off from. A form comes into play
only where no form before it fits, so a lexeme that could be read as one of those has to say what
keeps it from being read so. It may be that a quote is not closed. -/
inductive Form.Cuts : Form → (spelling rest : List Char) → Prop
  | escapedField {name body rest : List Char} (hname : IsName name)
      (hbody : isEscapedBody body = true) :
      Cuts .escapedField (name ++ ':' :: '"' :: body ++ ['"']) rest
  | literalField {name body rest : List Char} (hname : IsName name) (hbody : '"' ∉ body)
      (hopen : splitEscaped? (body ++ '"' :: rest) = none) :
      Cuts .literalField (name ++ ':' :: '"' :: body ++ ['"']) rest
  | opening {rest : List Char} : Cuts .opening ['('] rest
  | closing {rest : List Char} : Cuts .closing [')'] rest
  | phrase {text rest : List Char} (htext : '"' ∉ text) : Cuts .phrase ('"' :: text ++ ['"']) rest
  | bareField {name value rest : List Char} (hname : IsName name) (hvalue : IsBareText value)
      (hrest : EndsWord rest) (hopen : ∀ tail, value = '"' :: tail → '"' ∉ tail ++ rest) :
      Cuts .bareField (name ++ ':' :: value) rest
  | word {text rest : List Char} (htext : IsBareText text) (hrest : EndsWord rest)
      (hopen : ∀ tail, text = '"' :: tail → '"' ∉ tail ++ rest)
      (hname : ∀ name value, text = name ++ ':' :: value → IsName name → value = []) :
      Cuts .word text rest

theorem Form.mem_all (form : Form) : form ∈ all := by
  cases form <;> decide

/-- Of forms that are tried in a row, the first that fits is taken. -/
theorem Lexeme.findSome?_eq_some_iff {cs rest : List Char} {lexeme : Lexeme} (forms : List Form) :
    (forms.findSome? fun form =>
        (form.split? cs).map fun (spelling, rest) => (⟨form, spelling⟩, rest))
      = some (lexeme, rest) ↔
      lexeme.form ∈ forms ∧ lexeme.form.split? cs = some (lexeme.spelling, rest) ∧
        ∀ form ∈ forms.takeWhile (· ≠ lexeme.form), form.split? cs = none := by
  induction forms with
  | nil => simp
  | cons form forms ih =>
    rw [List.findSome?_cons]
    by_cases hform : form = lexeme.form
    · subst hform
      cases hsplit : lexeme.form.split? cs with
      | none => simp [ih, hsplit]
      | some split =>
        obtain ⟨form, spelling⟩ := lexeme
        simp [Prod.ext_iff]
    · cases hsplit : form.split? cs with
      | none => simp [ih, hform, hsplit, Ne.symm hform]
      | some split =>
        obtain ⟨form', spelling⟩ := lexeme
        have hne : ¬ form = form' := hform
        simp [hne, hsplit]

theorem Lexeme.next?_eq_some_iff_split? {cs rest : List Char} {lexeme : Lexeme} :
    Lexeme.next? cs = some (lexeme, rest) ↔
      lexeme.form.split? cs = some (lexeme.spelling, rest) ∧
        ∀ form ∈ Form.all.takeWhile (· ≠ lexeme.form), form.split? cs = none := by
  rw [next?, findSome?_eq_some_iff]
  simp [Form.mem_all]

/-- A field name in front of a bare word is part of the word. -/
theorem exists_eq_append_of_append_eq {text rest name tail : List Char} (hname : IsName name)
    (hrest : EndsWord rest) (h : text ++ rest = name ++ ':' :: tail) :
    ∃ value, text = name ++ ':' :: value ∧ tail = value ++ rest := by
  have hcolon : isBare ':' = true := by decide
  rcases List.append_eq_append_iff.1 h with ⟨mid, hname', htail⟩ | ⟨mid, htext, hrest'⟩
  · -- the word would end within the name, or before the colon
    cases mid with
    | nil =>
      have hends : isBare ':' = false := hrest ':' (by rw [htail]; rfl)
      simp [hcolon] at hends
    | cons c mid =>
      have hbare : isBare c = true := isBare_of_isWord (hname.2 c (by simp [hname']))
      have hends : isBare c = false := hrest c (by rw [htail]; rfl)
      simp [hbare] at hends
  · cases mid with
    | nil =>
      have hends : isBare ':' = false :=
        hrest ':' (by rw [← List.nil_append rest, ← hrest']; rfl)
      simp [hcolon] at hends
    | cons c value =>
      simp only [List.cons_append, List.cons.injEq] at hrest'
      obtain ⟨rfl, rfl⟩ := hrest'
      exact ⟨value, htext, rfl⟩

namespace Form

variable {cs spelling rest : List Char}

theorem splitQuotedField?_eq_some_iff
    {splitBody? : List Char → Option (List Char × List Char)} :
    splitQuotedField? splitBody? cs = some (spelling, rest) ↔
      ∃ name tail body, cs = name ++ ':' :: '"' :: tail ∧ IsName name ∧
        splitBody? tail = some (body, rest) ∧ spelling = name ++ ':' :: '"' :: body ++ ['"'] := by
  constructor
  · intro h
    obtain ⟨name, tail, body, hname, hbody, hspelling⟩ := exists_of_splitQuotedField? h
    obtain ⟨hcs, hisName⟩ := splitName?_eq_some_iff.1 hname
    exact ⟨name, tail, body, hcs, hisName, hbody, hspelling⟩
  · rintro ⟨name, tail, body, rfl, hname, hbody, rfl⟩
    simp [splitQuotedField?, splitName?_eq_some_iff.2 ⟨rfl, hname⟩, hbody]

theorem splitQuotedField?_eq_none_iff
    {splitBody? : List Char → Option (List Char × List Char)} :
    splitQuotedField? splitBody? cs = none ↔
      ∀ name tail, cs = name ++ ':' :: '"' :: tail → IsName name → splitBody? tail = none := by
  constructor
  · rintro h name tail rfl hname
    simpa [splitQuotedField?, splitName?_eq_some_iff.2 ⟨rfl, hname⟩] using h
  · intro h
    unfold splitQuotedField?
    split
    · rename_i name tail hname
      obtain ⟨hcs, hisName⟩ := splitName?_eq_some_iff.1 hname
      rw [h name tail hcs hisName, Option.map_none]
    · rfl

theorem split?_phrase_eq_some_iff :
    phrase.split? cs = some (spelling, rest) ↔
      ∃ text, cs = '"' :: text ++ '"' :: rest ∧ '"' ∉ text ∧ spelling = '"' :: text ++ ['"'] := by
  constructor
  · intro h
    simp only [split?] at h
    split at h
    · obtain ⟨text, htext, rfl⟩ := exists_body_of_map_eq_some (fun text => '"' :: text ++ ['"']) h
      obtain ⟨rfl, hquote⟩ := splitLiteral?_eq_some_iff.1 htext
      exact ⟨text, rfl, hquote, rfl⟩
    · cases h
  · rintro ⟨text, rfl, hquote, rfl⟩
    simp [split?, splitLiteral?_eq_some_iff.2 ⟨rfl, hquote⟩]

theorem split?_phrase_eq_none_iff :
    phrase.split? cs = none ↔ ∀ tail, cs = '"' :: tail → '"' ∉ tail := by
  constructor
  · rintro h tail rfl
    simpa [split?, splitLiteral?_eq_none_iff] using h
  · intro h
    simp only [split?]
    split
    · rename_i tail
      rw [splitLiteral?_eq_none_iff.2 (h tail rfl), Option.map_none]
    · rfl

theorem split?_word_eq_some_iff :
    word.split? cs = some (spelling, rest) ↔
      cs = spelling ++ rest ∧ IsBareText spelling ∧ EndsWord rest := by
  constructor
  · intro h
    refine ⟨(split?_append h).symm, ?_⟩
    simp only [split?] at h
    split at h
    · cases h
    · rename_i c text htext
      simp only [Option.some.injEq, Prod.mk.injEq] at h
      obtain ⟨rfl, rfl⟩ := h
      refine ⟨⟨List.cons_ne_nil _ _, fun d hd => ?_⟩, fun d hd => ?_⟩
      · rw [← htext] at hd
        exact List.mem_takeWhile_imp hd
      · have hfirst := List.head?_dropWhile_not isBare cs
        rw [hd] at hfirst
        simpa using hfirst
  · rintro ⟨rfl, ⟨hne, hbare⟩, hrest⟩
    obtain ⟨htake, hdrop⟩ := takeWhile_eq_and_dropWhile_eq hbare hrest
    obtain ⟨c, text, rfl⟩ := List.exists_cons_of_ne_nil hne
    simp only [split?, htake, hdrop]

theorem split?_bareField_eq_some_iff :
    bareField.split? cs = some (spelling, rest) ↔
      ∃ name value, cs = name ++ ':' :: value ++ rest ∧ IsName name ∧ IsBareText value ∧
        EndsWord rest ∧ spelling = name ++ ':' :: value := by
  constructor
  · intro h
    cases hname : splitName? cs with
    | none => simp [split?, hname] at h
    | some split =>
      obtain ⟨name, tail⟩ := split
      obtain ⟨hcs, hisName⟩ := splitName?_eq_some_iff.1 hname
      rw [split?_bareField hname] at h
      obtain ⟨value, hvalue, rfl⟩ :=
        exists_body_of_map_eq_some (fun value => name ++ ':' :: value) h
      obtain ⟨rfl, hbare, hrest⟩ := split?_word_eq_some_iff.1 hvalue
      exact ⟨name, value, by simp [hcs], hisName, hbare, hrest, rfl⟩
  · rintro ⟨name, value, rfl, hname, hbare, hrest, rfl⟩
    have hcs : name ++ ':' :: value ++ rest = name ++ ':' :: (value ++ rest) := by simp
    rw [split?_bareField (splitName?_eq_some_iff.2 ⟨hcs, hname⟩),
      split?_word_eq_some_iff.2 ⟨rfl, hbare, hrest⟩]
    rfl

theorem split?_bareField_eq_none_iff :
    bareField.split? cs = none ↔
      ∀ name tail, cs = name ++ ':' :: tail → IsName name → EndsWord tail := by
  have hword (tail : List Char) : word.split? tail = none ↔ EndsWord tail := by
    cases tail with
    | nil => simp [split?, EndsWord]
    | cons c tail => cases h : isBare c <;> simp [split?, EndsWord, h]
  constructor
  · intro h name tail hcs hname
    rw [split?_bareField (splitName?_eq_some_iff.2 ⟨hcs, hname⟩), Option.map_eq_none_iff] at h
    exact (hword tail).1 h
  · intro h
    cases hname : splitName? cs with
    | none => simp [split?, hname]
    | some split =>
      obtain ⟨name, tail⟩ := split
      obtain ⟨hcs, hisName⟩ := splitName?_eq_some_iff.1 hname
      rw [split?_bareField hname, (hword tail).2 (h name tail hcs hisName)]
      rfl

/-- What is cut off as a form, and as no form before it, is spelled by the rule of that form. -/
theorem cuts_of_split? {form : Form} (hsplit : form.split? cs = some (spelling, rest))
    (hbefore : ∀ other ∈ all.takeWhile (· ≠ form), other.split? cs = none) :
    form.Cuts spelling rest := by
  cases form with
  | escapedField =>
    rw [split?_escapedField, splitQuotedField?_eq_some_iff] at hsplit
    obtain ⟨name, tail, body, -, hname, hbody, rfl⟩ := hsplit
    exact .escapedField hname (splitEscaped?_eq_some_iff.1 hbody).2
  | literalField =>
    have hescaped : escapedField.split? cs = none := hbefore _ (by decide)
    rw [split?_literalField, splitQuotedField?_eq_some_iff] at hsplit
    rw [split?_escapedField, splitQuotedField?_eq_none_iff] at hescaped
    obtain ⟨name, tail, body, hcs, hname, hbody, rfl⟩ := hsplit
    obtain ⟨rfl, hquote⟩ := splitLiteral?_eq_some_iff.1 hbody
    exact .literalField hname hquote (hescaped name _ hcs hname)
  | opening | closing =>
    simp only [split?] at hsplit
    split at hsplit
    · cases hsplit
      constructor
    · cases hsplit
  | phrase =>
    obtain ⟨text, -, hquote, rfl⟩ := split?_phrase_eq_some_iff.1 hsplit
    exact .phrase hquote
  | bareField =>
    have hliteral : literalField.split? cs = none := hbefore _ (by decide)
    rw [split?_literalField, splitQuotedField?_eq_none_iff] at hliteral
    obtain ⟨name, value, rfl, hname, hvalue, hrest, rfl⟩ := split?_bareField_eq_some_iff.1 hsplit
    refine .bareField hname hvalue hrest fun tail htail => ?_
    exact splitLiteral?_eq_none_iff.1 (hliteral name _ (by simp [htail]) hname)
  | word =>
    have hphrase : phrase.split? cs = none := hbefore _ (by decide)
    have hfield : bareField.split? cs = none := hbefore _ (by decide)
    obtain ⟨rfl, htext, hrest⟩ := split?_word_eq_some_iff.1 hsplit
    refine .word htext hrest (fun tail htail => ?_) fun name value hvalue hname => ?_
    · exact split?_phrase_eq_none_iff.1 hphrase _ (by rw [htail]; rfl)
    · -- a value would have been cut off with its name
      have hends : EndsWord (value ++ rest) :=
        split?_bareField_eq_none_iff.1 hfield name _ (by simp [hvalue]) hname
      cases value with
      | nil => rfl
      | cons c value =>
        have hbare : isBare c = true := htext.2 c (by simp [hvalue])
        have hnot : isBare c = false := hends c rfl
        simp [hbare] at hnot

/-- A text that starts with no word character starts with no field. -/
theorem splitQuotedField?_cons_eq_none {c : Char} (h : isWord c = false) (cs : List Char)
    (splitBody? : List Char → Option (List Char × List Char)) :
    splitQuotedField? splitBody? (c :: cs) = none := by
  simp [splitQuotedField?, splitName?_eq_none h]

/-- A bare text is no field with its value in quotes, if a quote that starts its value stays
open. -/
theorem splitQuotedField?_eq_none_of_bare {text : List Char}
    {splitBody? : List Char → Option (List Char × List Char)} (hrest : EndsWord rest)
    (hopen : ∀ name tail, text = name ++ ':' :: '"' :: tail → IsName name →
      splitBody? (tail ++ rest) = none) :
    splitQuotedField? splitBody? (text ++ rest) = none := by
  refine splitQuotedField?_eq_none_iff.2 fun name tail hcs hisName => ?_
  obtain ⟨value, htext, hvalue⟩ := exists_eq_append_of_append_eq hisName hrest hcs
  cases value with
  | nil =>
    -- the quote would come right after the text, but it is a bare character
    have hquote : isBare '"' = false := hrest '"' (by rw [← List.nil_append rest, ← hvalue]; rfl)
    exact absurd hquote (by decide)
  | cons c value =>
    simp only [List.cons_append, List.cons.injEq] at hvalue
    obtain ⟨rfl, rfl⟩ := hvalue
    exact hopen name value htext hisName

theorem split?_parenthesis_eq_none {c : Char} (h : isBare c = true) (cs : List Char) :
    opening.split? (c :: cs) = none ∧ closing.split? (c :: cs) = none := by
  have hopening : c ≠ '(' := by rintro rfl; exact absurd h (by decide)
  have hclosing : c ≠ ')' := by rintro rfl; exact absurd h (by decide)
  simp [split?, hopening, hclosing]

/-- What is spelled by the rule of a form is cut off as that form. -/
theorem split?_of_cuts {form : Form} (h : form.Cuts spelling rest) :
    form.split? (spelling ++ rest) = some (spelling, rest) := by
  cases h with
  | @escapedField name body _ hname hbody =>
    have hsplit : splitEscaped? (body ++ '"' :: rest) = some (body, rest) :=
      splitEscaped?_eq_some_iff.2 ⟨rfl, hbody⟩
    exact splitQuotedField?_eq_some_iff.2 ⟨name, _, body, by simp, hname, hsplit, rfl⟩
  | @literalField name body _ hname hbody hopen =>
    have hsplit : splitLiteral? (body ++ '"' :: rest) = some (body, rest) :=
      splitLiteral?_eq_some_iff.2 ⟨rfl, hbody⟩
    exact splitQuotedField?_eq_some_iff.2 ⟨name, _, body, by simp, hname, hsplit, rfl⟩
  | opening => rfl
  | closing => rfl
  | @phrase text _ htext => exact split?_phrase_eq_some_iff.2 ⟨text, by simp, htext, rfl⟩
  | @bareField name value _ hname hvalue hrest hopen =>
    exact split?_bareField_eq_some_iff.2 ⟨name, value, rfl, hname, hvalue, hrest, rfl⟩
  | word htext hrest hopen hname => exact split?_word_eq_some_iff.2 ⟨rfl, htext, hrest⟩

/-- What is spelled by the rule of a form is cut off as no form before it. -/
theorem split?_eq_none_of_cuts {form other : Form} (h : form.Cuts spelling rest)
    (hother : other ∈ all.takeWhile (· ≠ form)) : other.split? (spelling ++ rest) = none := by
  have hquote : isWord '"' = false := by decide
  have hopening : isWord '(' = false := by decide
  have hclosing : isWord ')' = false := by decide
  cases h with
  | escapedField hname hbody => cases other <;> simp [all] at hother
  | @literalField name body _ hname hbody hopen =>
    -- only the form with backslashes comes before, and it would read the same name
    cases other <;> simp [all] at hother
    refine splitQuotedField?_eq_none_iff.2 fun name' tail hcs hname' => ?_
    have hcs' : name ++ ':' :: ('"' :: (body ++ '"' :: rest)) = name' ++ ':' :: ('"' :: tail) := by
      simpa using hcs
    obtain ⟨-, htail⟩ := hname.eq_of_append_eq hname' hcs'
    rwa [← List.tail_eq_of_cons_eq htail]
  | opening =>
    cases other <;> simp [all] at hother
    · exact splitQuotedField?_cons_eq_none hopening rest splitEscaped?
    · exact splitQuotedField?_cons_eq_none hopening rest splitLiteral?
  | closing =>
    cases other <;> simp [all] at hother
    · exact splitQuotedField?_cons_eq_none hclosing rest splitEscaped?
    · exact splitQuotedField?_cons_eq_none hclosing rest splitLiteral?
    · rfl
  | @phrase text _ htext =>
    cases other <;> simp [all] at hother
    · exact splitQuotedField?_cons_eq_none hquote (text ++ ['"'] ++ rest) splitEscaped?
    · exact splitQuotedField?_cons_eq_none hquote (text ++ ['"'] ++ rest) splitLiteral?
    · rfl
    · rfl
  | @bareField name value _ hname hvalue hrest hopen =>
    have hnoQuote (name' tail : List Char)
        (htext : name ++ ':' :: value = name' ++ ':' :: '"' :: tail) (hname' : IsName name') :
        '"' ∉ tail ++ rest :=
      hopen tail (hname.eq_of_append_eq hname' htext).2
    obtain ⟨c, name, rfl⟩ := List.exists_cons_of_ne_nil hname.1
    have hc : isWord c = true := hname.2 c (by simp)
    have hne : c ≠ '"' := by rintro rfl; exact absurd hc (by decide)
    obtain ⟨hparen, hparen'⟩ :=
      split?_parenthesis_eq_none (isBare_of_isWord hc) (name ++ ':' :: value ++ rest)
    -- the fields with their value in quotes, the parentheses and the phrase come before
    cases other <;> simp [all] at hother
    · exact splitQuotedField?_eq_none_of_bare hrest fun name' tail htext hname' =>
        splitEscaped?_eq_none_of_notMem (hnoQuote name' tail htext hname')
    · exact splitQuotedField?_eq_none_of_bare hrest fun name' tail htext hname' =>
        splitLiteral?_eq_none_iff.2 (hnoQuote name' tail htext hname')
    · exact hparen
    · exact hparen'
    · exact split?_phrase_eq_none_iff.2 fun tail hcs => absurd (List.head_eq_of_cons_eq hcs) hne
  | word htext hrest hopen hname =>
    -- a name that starts the word has nothing after its colon
    have hnoQuote (name tail : List Char) (hvalue : spelling = name ++ ':' :: '"' :: tail)
        (hisName : IsName name) : False :=
      List.cons_ne_nil _ _ (hname name _ hvalue hisName)
    obtain ⟨c, inner, rfl⟩ := List.exists_cons_of_ne_nil htext.1
    obtain ⟨hparen, hparen'⟩ := split?_parenthesis_eq_none (htext.2 c (by simp)) (inner ++ rest)
    -- all other forms come before, in the order in which they are tried
    cases other <;> simp [all] at hother
    · exact splitQuotedField?_eq_none_of_bare hrest fun name tail hvalue hisName =>
        (hnoQuote name tail hvalue hisName).elim
    · exact splitQuotedField?_eq_none_of_bare hrest fun name tail hvalue hisName =>
        (hnoQuote name tail hvalue hisName).elim
    · exact hparen
    · exact hparen'
    · refine split?_phrase_eq_none_iff.2 fun tail hcs => ?_
      simp only [List.cons_append, List.cons.injEq] at hcs
      obtain ⟨rfl, rfl⟩ := hcs
      exact hopen inner rfl
    · refine split?_bareField_eq_none_iff.2 fun name tail hcs hisName => ?_
      obtain ⟨value, hvalue, rfl⟩ := exists_eq_append_of_append_eq hisName hrest hcs
      obtain rfl := hname name value hvalue hisName
      exact hrest

end Form

/-- **The next lexeme is the one that the rules give.** -/
theorem Lexeme.next?_eq_some_iff {cs rest : List Char} {lexeme : Lexeme} :
    Lexeme.next? cs = some (lexeme, rest) ↔
      cs = lexeme.spelling ++ rest ∧ lexeme.form.Cuts lexeme.spelling rest := by
  rw [next?_eq_some_iff_split?]
  constructor
  · rintro ⟨hsplit, hbefore⟩
    exact ⟨(Form.split?_append hsplit).symm, Form.cuts_of_split? hsplit hbefore⟩
  · rintro ⟨rfl, hcuts⟩
    exact ⟨Form.split?_of_cuts hcuts, fun _ => Form.split?_eq_none_of_cuts hcuts⟩

/-! ### A whole text -/

/-- A lexeme starts with a character that is not blank. -/
theorem Form.Cuts.exists_cons {form : Form} {spelling rest : List Char}
    (h : form.Cuts spelling rest) : ∃ c tail, spelling = c :: tail ∧ isBlank c = false := by
  have hname {name : List Char} (hname : IsName name) :
      ∃ c tail, name = c :: tail ∧ isBlank c = false := by
    obtain ⟨c, tail, rfl⟩ := List.exists_cons_of_ne_nil hname.1
    exact ⟨c, tail, rfl, isBlank_eq_false_of_isBare (isBare_of_isWord (hname.2 c (by simp)))⟩
  cases h with
  | escapedField hisName =>
    obtain ⟨c, tail, rfl, hc⟩ := hname hisName
    exact ⟨c, _, rfl, hc⟩
  | literalField hisName =>
    obtain ⟨c, tail, rfl, hc⟩ := hname hisName
    exact ⟨c, _, rfl, hc⟩
  | opening => exact ⟨'(', [], rfl, by decide⟩
  | closing => exact ⟨')', [], rfl, by decide⟩
  | phrase => exact ⟨'"', _, rfl, by decide⟩
  | bareField hisName =>
    obtain ⟨c, tail, rfl, hc⟩ := hname hisName
    exact ⟨c, _, rfl, hc⟩
  | word htext =>
    obtain ⟨c, tail, rfl⟩ := List.exists_cons_of_ne_nil htext.1
    exact ⟨c, tail, rfl, isBlank_eq_false_of_isBare (htext.2 c (by simp))⟩

/-- Where there is a character that is not blank, there is a lexeme. -/
theorem Lexeme.next?_ne_none {c : Char} (h : isBlank c = false) (cs : List Char) :
    Lexeme.next? (c :: cs) ≠ none := by
  intro hnone
  rw [next?, List.findSome?_eq_none_iff] at hnone
  have hopening := hnone .opening (Form.mem_all _)
  have hclosing := hnone .closing (Form.mem_all _)
  have hword := hnone .word (Form.mem_all _)
  -- a character that is no blank and no parenthesis starts a word
  by_cases hopen : c = '('
  · simp [hopen, Form.split?] at hopening
  · by_cases hclose : c = ')'
    · simp [hclose, Form.split?] at hclosing
    · have hbare : isBare c = true := by simp [isBare, h, hopen, hclose]
      simp [Form.split?, hbare] at hword

/-- A text is made up of lexemes, each cut off by the rule of its form, with blanks before, between
and after them. -/
inductive Cutting : List Char → List Lexeme → Prop
  | nil {blanks : List Char} (hblanks : ∀ c ∈ blanks, isBlank c = true) : Cutting blanks []
  | cons {blanks rest : List Char} {lexeme : Lexeme} {lexemes : List Lexeme}
      (hblanks : ∀ c ∈ blanks, isBlank c = true)
      (hcuts : lexeme.form.Cuts lexeme.spelling rest) (hrest : Cutting rest lexemes) :
      Cutting (blanks ++ (lexeme.spelling ++ rest)) (lexeme :: lexemes)

/-- Every text is cut into the lexemes that the scanner finds. -/
theorem cutting_lexemes (cs : List Char) : Cutting cs (lexemes cs) := by
  have hsplit := List.takeWhile_append_dropWhile (p := isBlank) (l := cs)
  have hblanks : ∀ c ∈ cs.takeWhile isBlank, isBlank c = true :=
    fun _ hc => List.mem_takeWhile_imp hc
  cases hnext : Lexeme.next? (cs.dropWhile isBlank) with
  | none =>
    rw [lexemes_of_next?_none hnext]
    cases hdrop : cs.dropWhile isBlank with
    | nil =>
      rw [hdrop, List.append_nil] at hsplit
      rw [hsplit] at hblanks
      exact .nil hblanks
    | cons c rest =>
      have hc : isBlank c = false := by
        have hfirst := List.head?_dropWhile_not isBlank cs
        simpa [hdrop] using hfirst
      rw [hdrop] at hnext
      exact absurd hnext (Lexeme.next?_ne_none hc rest)
  | some next =>
    obtain ⟨lexeme, rest⟩ := next
    obtain ⟨hcs, hcuts⟩ := Lexeme.next?_eq_some_iff.1 hnext
    have hshorter : rest.length < cs.length := by
      have hle := (List.dropWhile_suffix isBlank (l := cs)).length_le
      have hlt := Lexeme.length_of_next? hnext
      omega
    rw [lexemes_of_next? hnext, ← hsplit, hcs]
    exact .cons hblanks hcuts (cutting_lexemes rest)
  termination_by cs.length

/-- **A text can be cut in one way only**, the one in which the scanner cuts it. -/
theorem cutting_iff {cs : List Char} {ls : List Lexeme} : Cutting cs ls ↔ lexemes cs = ls := by
  constructor
  · intro h
    induction h with
    | @nil blanks hblanks =>
      apply lexemes_of_next?_none
      rw [List.dropWhile_eq_nil_iff.2 hblanks]
      rfl
    | @cons blanks rest lexeme ls hblanks hcuts _ ih =>
      have hnext : Lexeme.next? ((blanks ++ (lexeme.spelling ++ rest)).dropWhile isBlank)
          = some (lexeme, rest) := by
        obtain ⟨c, tail, hspelling, hc⟩ := hcuts.exists_cons
        have hdrop : (blanks ++ (lexeme.spelling ++ rest)).dropWhile isBlank
            = lexeme.spelling ++ rest := by
          rw [List.dropWhile_append_of_pos hblanks, hspelling]
          simp [hc]
        rw [hdrop]
        exact Lexeme.next?_eq_some_iff.2 ⟨rfl, hcuts⟩
      rw [lexemes_of_next? hnext, ih]
  · rintro rfl
    exact cutting_lexemes cs

/-- A blank before a text makes no difference. -/
theorem lexemes_cons_blank {c : Char} (h : isBlank c = true) (cs : List Char) :
    lexemes (c :: cs) = lexemes cs := by
  have hblank : ∀ d ∈ [c], isBlank d = true := by simpa using h
  apply cutting_iff.1
  have hcutting := cutting_lexemes cs
  generalize lexemes cs = ls at hcutting
  cases hcutting with
  | @nil blanks hblanks => exact .nil (by simpa [h] using hblanks)
  | @cons blanks rest lexeme ls hblanks hcuts hrest =>
    have hmore : ∀ d ∈ c :: blanks, isBlank d = true := by simpa [h] using hblanks
    exact .cons hmore hcuts hrest

/-- Pieces joined with blanks are cut like pieces with a blank before each. -/
theorem lexemes_intercalate (pieces : List (List Char)) :
    lexemes ([' '].intercalate pieces) = lexemes (pieces.flatMap fun piece => ' ' :: piece) := by
  have hjoined (piece : List Char) (pieces : List (List Char)) :
      (piece :: pieces).flatMap (fun piece => ' ' :: piece)
        = ' ' :: [' '].intercalate (piece :: pieces) := by
    induction pieces generalizing piece with
    | nil => simp
    | cons next pieces ih =>
      rw [List.flatMap_cons, ih next]
      simp
  cases pieces with
  | nil => rfl
  | cons piece pieces => rw [hjoined, lexemes_cons_blank (by decide)]

end MailSearch.Query
