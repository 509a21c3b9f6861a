import MailSearch.Proofs.FilterString.Lexeme

/-!
# Reading a filter string

A filter string is a chain: operands with AND or OR between them. An operand is a comparison, a NOT
before an operand, or a chain in parentheses. A chain keeps its connectives in the order they are
written in, and says nothing about how tightly they bind.

`readChain?` reads a chain off its words and fails if that is not all there is. It keeps the levels
that are open around what it reads on a stack. The reader is exact (`readChain?_eq_some_iff`): it
reads a chain from the words of that chain and from no others, so a filter string has at most one
chain (`SpelledBy`), and one that is put together from pieces is read piece by piece.
-/

namespace MailSearch.FilterString

/-- A comparison of an attribute with a value. -/
structure Comparison where
  name : String
  operator : Operator
  value : Literal
  deriving DecidableEq, Repr

mutual

/-- What stands between two connectives. -/
inductive Operand where
  | comparison (comparison : Comparison)
  | not (operand : Operand)
  | group (chain : Chain)

/-- Operands with connectives between them. -/
inductive Chain where
  | single (operand : Operand)
  | join (before : Chain) (connective : Connective) (last : Operand)

end

/-! ### The words of a chain -/

def Lexeme.ofConnective : Connective → Lexeme
  | .and => .and
  | .or => .or

def Comparison.lexemes (comparison : Comparison) : List Lexeme :=
  [.attribute comparison.name, .symbol comparison.operator, .literal comparison.value]

mutual

def Operand.lexemes : Operand → List Lexeme
  | .comparison comparison => comparison.lexemes
  | .not operand => .not :: operand.lexemes
  | .group chain => .opening :: (chain.lexemes ++ [.closing])

def Chain.lexemes : Chain → List Lexeme
  | .single operand => operand.lexemes
  | .join before connective last => before.lexemes ++ .ofConnective connective :: last.lexemes

end

/-- Two chains with a connective between them are a chain. -/
def Chain.append (chain : Chain) (connective : Connective) : Chain → Chain
  | .single operand => .join chain connective operand
  | .join before connective' last => .join (chain.append connective before) connective' last

@[simp] theorem Chain.lexemes_append (a : Chain) (k : Connective) (b : Chain) :
    (a.append k b).lexemes = a.lexemes ++ .ofConnective k :: b.lexemes := by
  cases b with
  | single operand => rfl
  | join before k' last => simp [append, lexemes, lexemes_append a k before]

theorem Chain.append_assoc (a : Chain) (k : Connective) (b : Chain) (k' : Connective) (c : Chain) :
    (a.append k b).append k' c = a.append k (b.append k' c) := by
  cases c with
  | single operand => rfl
  | join before k'' last => simp only [append, append_assoc a k b k' before]

/-! ### The reader -/

/-- What has been read at one level while an operand is due: a chain with a connective after it, if
any, and the number of NOTs after that. -/
structure Level where
  before : Option (Chain × Connective) := none
  negations : Nat := 0

/-- An operand under a number of NOTs. -/
def Operand.negate : Nat → Operand → Operand
  | 0, operand => operand
  | n + 1, operand => .not (negate n operand)

/-- The chain at a level once the operand that is due has come. -/
def Level.add (level : Level) (operand : Operand) : Chain :=
  match level.before with
  | none => .single (operand.negate level.negations)
  | some (chain, connective) => .join chain connective (operand.negate level.negations)

mutual

/-- Reads on where an operand is due, `here` with the levels `around` it. -/
def readOperand (here : Level) (around : List Level) : List Lexeme → Option Chain
  | .not :: rest => readOperand { here with negations := here.negations + 1 } around rest
  | .opening :: rest => readOperand {} (here :: around) rest
  | .attribute name :: .symbol operator :: .literal value :: rest =>
    readOperator (here.add (.comparison ⟨name, operator, value⟩)) around rest
  | _ => none

/-- Reads on where an operand has just come, which makes up `chain` at its level. -/
def readOperator (chain : Chain) (around : List Level) : List Lexeme → Option Chain
  | [] => if around.isEmpty then some chain else none
  | .and :: rest => readOperand { before := some (chain, .and) } around rest
  | .or :: rest => readOperand { before := some (chain, .or) } around rest
  -- the chain is a group, and that an operand of the level around it
  | .closing :: rest =>
    match around with
    | [] => none
    | outer :: around => readOperator (outer.add (.group chain)) around rest
  | _ => none

end

/-- The chain that words make up, all of them. -/
def readChain? (lexemes : List Lexeme) : Option Chain :=
  readOperand {} [] lexemes

/-! ### Every chain is read from its words -/

theorem Level.add_not (level : Level) (operand : Operand) :
    { level with negations := level.negations + 1 }.add operand = level.add (.not operand) := by
  -- NOTs count from the inside as they do from the outside
  have hnegate (n : Nat) : operand.negate (n + 1) = (Operand.not operand).negate n := by
    induction n with
    | zero => rfl
    | succ n ih => rw [Operand.negate, ih]; rfl
  simp only [add, hnegate]

mutual

/-- An operand's words are read as that operand, whatever is around them. -/
theorem readOperand_operand (operand : Operand) (here : Level) (around : List Level)
    (rest : List Lexeme) :
    readOperand here around (operand.lexemes ++ rest)
      = readOperator (here.add operand) around rest := by
  cases operand with
  | comparison comparison => rfl
  | not operand =>
    show readOperand { here with negations := here.negations + 1 } around (operand.lexemes ++ rest)
      = _
    rw [readOperand_operand operand, Level.add_not]
  | group chain =>
    have hwords : (Operand.group chain).lexemes ++ rest
        = .opening :: (chain.lexemes ++ .closing :: rest) := by
      simp [Operand.lexemes]
    rw [hwords, readOperand, readOperand_chain chain, readOperator]

/-- A chain's words are read as that chain, from the start of a level. -/
theorem readOperand_chain (chain : Chain) (around : List Level) (rest : List Lexeme) :
    readOperand {} around (chain.lexemes ++ rest) = readOperator chain around rest := by
  cases chain with
  | single operand => exact readOperand_operand operand {} around rest
  | join before connective last =>
    have hwords : (Chain.join before connective last).lexemes ++ rest
        = before.lexemes ++ .ofConnective connective :: (last.lexemes ++ rest) := by
      simp [Chain.lexemes]
    have hlast : readOperator before around (.ofConnective connective :: (last.lexemes ++ rest))
        = readOperand { before := some (before, connective) } around (last.lexemes ++ rest) := by
      cases connective <;> rfl
    rw [hwords, readOperand_chain before, hlast, readOperand_operand last]
    rfl

end

/-! ### Nothing else is read -/

/-- The words that have been read at a level. -/
def Level.lexemes (level : Level) : List Lexeme :=
  (match level.before with
    | none => []
    | some (chain, connective) => chain.lexemes ++ [.ofConnective connective]) ++
  List.replicate level.negations .not

/-- The words that have been read of the levels around, and the parenthesis that each was left with.
-/
def openedLexemes : List Level → List Lexeme
  | [] => []
  | level :: around => openedLexemes around ++ level.lexemes ++ [.opening]

@[simp] theorem Level.lexemes_not (level : Level) :
    { level with negations := level.negations + 1 }.lexemes = level.lexemes ++ [.not] := by
  simp only [lexemes, List.replicate_succ', List.append_assoc]

theorem Operand.lexemes_negate (n : Nat) (operand : Operand) :
    (operand.negate n).lexemes = List.replicate n .not ++ operand.lexemes := by
  induction n with
  | zero => rfl
  | succ n ih => rw [negate, lexemes, ih, List.replicate_succ, List.cons_append]

@[simp] theorem Level.lexemes_add (level : Level) (operand : Operand) :
    (level.add operand).lexemes = level.lexemes ++ operand.lexemes := by
  obtain ⟨before, negations⟩ := level
  cases before with
  | none => simp [add, lexemes, Chain.lexemes, Operand.lexemes_negate]
  | some before => simp [add, lexemes, Chain.lexemes, Operand.lexemes_negate]

mutual

/-- A chain that is read is spelled by the words that had been read and those that were left. The
two states of the reader are proved together, each by what it does with the next word. -/
theorem lexemes_of_readOperand {here : Level} {around : List Level} {words : List Lexeme}
    {chain : Chain} (h : readOperand here around words = some chain) :
    openedLexemes around ++ here.lexemes ++ words = chain.lexemes := by
  unfold readOperand at h
  split at h
  · have hnot := lexemes_of_readOperand h
    simpa using hnot
  · -- the level that was here is the innermost one around
    have hopening := lexemes_of_readOperand h
    simpa [openedLexemes, Level.lexemes] using hopening
  · have hcomparison := lexemes_of_readOperator h
    simpa [Operand.lexemes, Comparison.lexemes] using hcomparison
  · cases h

theorem lexemes_of_readOperator {before : Chain} {around : List Level} {words : List Lexeme}
    {chain : Chain} (h : readOperator before around words = some chain) :
    openedLexemes around ++ before.lexemes ++ words = chain.lexemes := by
  unfold readOperator at h
  split at h
  · cases around with
    | nil => simpa [openedLexemes] using congrArg Chain.lexemes (Option.some.inj h)
    | cons level around => cases h
  · have hand := lexemes_of_readOperand h
    simpa [Level.lexemes, Lexeme.ofConnective] using hand
  · have hor := lexemes_of_readOperand h
    simpa [Level.lexemes, Lexeme.ofConnective] using hor
  · split at h
    · cases h
    · have hclosing := lexemes_of_readOperator h
      simpa [openedLexemes, Operand.lexemes] using hclosing
  · cases h

end

/-- **The reader is exact.** A chain is read from its own words and from no others. -/
theorem readChain?_eq_some_iff {words : List Lexeme} {chain : Chain} :
    readChain? words = some chain ↔ words = chain.lexemes := by
  constructor
  · intro h
    exact lexemes_of_readOperand h
  · rintro rfl
    have hread := readOperand_chain chain [] []
    rw [List.append_nil] at hread
    exact hread

/-! ### Strings -/

/-- The chain that a whole string makes up. -/
def Chain.read? (text : String) : Option Chain :=
  (lex text).bind readChain?

/-- A string spells a chain if its words are those of the chain. -/
def Chain.SpelledBy (chain : Chain) (text : String) : Prop :=
  lex text = some chain.lexemes

theorem Chain.read?_eq_some_iff {text : String} {chain : Chain} :
    Chain.read? text = some chain ↔ chain.SpelledBy text := by
  rw [Chain.read?, Option.bind_eq_some_iff, Chain.SpelledBy]
  constructor
  · rintro ⟨words, hwords, hchain⟩
    rw [hwords, readChain?_eq_some_iff.1 hchain]
  · intro h
    exact ⟨chain.lexemes, h, readChain?_eq_some_iff.2 rfl⟩

namespace Chain.SpelledBy

variable {a b : Chain} {s t : String}

/-- Two strings with the word for a connective between them. -/
theorem append {connective : Connective} (word : String)
    (hword : lex word = some [.ofConnective connective]) (hs : a.SpelledBy s) (ht : b.SpelledBy t) :
    (a.append connective b).SpelledBy (s ++ (" " ++ word ++ " ") ++ t) := by
  have hassoc : s ++ (" " ++ word ++ " ") ++ t = s ++ " " ++ (word ++ " " ++ t) := by
    simp only [String.append_assoc]
  rw [SpelledBy, hassoc, lexemes_append]
  exact lex_word hs (lex_word hword ht)

theorem and (hs : a.SpelledBy s) (ht : b.SpelledBy t) :
    (a.append .and b).SpelledBy (s ++ " AND " ++ t) :=
  append "AND" (by decide +kernel) hs ht

theorem or (hs : a.SpelledBy s) (ht : b.SpelledBy t) :
    (a.append .or b).SpelledBy (s ++ " OR " ++ t) :=
  append "OR" (by decide +kernel) hs ht

theorem group (hs : a.SpelledBy s) : (single (.group a)).SpelledBy ("(" ++ s ++ ")") :=
  lex_parentheses hs

theorem not (hs : a.SpelledBy s) : (single (.not (.group a))).SpelledBy ("NOT (" ++ s ++ ")") := by
  have hassoc : "NOT (" ++ s ++ ")" = "NOT" ++ " " ++ ("(" ++ s ++ ")") := by
    simp only [← String.append_assoc]
    rfl
  have hnot : lex "NOT" = some [.not] := by decide +kernel
  rw [SpelledBy, hassoc]
  exact lex_word hnot (lex_parentheses hs)

end Chain.SpelledBy

end MailSearch.FilterString
