import MailSearch.Proofs.Query.Grammar
import MailSearch.Proofs.Query.Machine

/-!
# The query machine follows the grammar

A query that the grammar derives is read as the grammar says: the expression that the machine builds
is the denotation of the derivation, and nothing is dropped for its depth, as long as no NOT and no
parenthesis of the derivation lies deeper than the limit (`parseTokens_of_derivation`).

What it is for the machine to read a part of a query differs with the part (`Nonterminal.Reads`). A
primary, a negation or a conjunction comes to one operand of its group; a disjunction spreads over
several operands, so there it is the value of the group that counts. `ReadsAs` asks for that from
every machine that is at the start of the part, with any groups around it. It has one lemma for each
production, and a derivation is read by induction over them.
-/

namespace MailSearch

/-- Negations count from the inside as they do from the outside. -/
theorem Expr.negate_not (n : Nat) (e : Expr) : negate n (not e) = negate (n + 1) e := by
  induction n with
  | zero => rfl
  | succ n ih => rw [negate, ih]; rfl

namespace Query

/-! ### Groups -/

namespace Group

/-- A negation that waits is a negation of the operand. -/
theorem addOperand_negated (group : Group) (operand : Option Expr) :
    { group with negations := group.negations + 1 }.addOperand operand
      = group.addOperand (operand.map .not) := by
  have hnegate : Expr.negate (group.negations + 1) = Expr.negate group.negations ∘ Expr.not :=
    funext fun e => (Expr.negate_not group.negations e).symm
  simp only [addOperand, Option.map_map, hnegate]

/-- An operand at the start of a conjunction is the conjunction. -/
theorem addOperand_of_fresh {group : Group} (hconjunction : group.conjunction = none)
    (hnegations : group.negations = 0) (operand : Option Expr) :
    group.addOperand operand = { group with conjunction := operand } := by
  have hnegate : Expr.negate 0 = id := rfl
  simp [addOperand, hconjunction, hnegations, hnegate]

end Group

namespace Parser

/-! ### An AND that is not written -/

/-- What a token does as the start of an operand does not depend on what was due. -/
theorem stepOperand_expects (p : Parser) (due : Expects) (token : Token) :
    { p with expects := due }.stepOperand token = p.stepOperand token := by
  have hdepth : { p with expects := due }.depth = p.depth := rfl
  cases token with
  | field name value raw =>
    simp only [stepOperand, addField]
    cases (resolve name value).value <;> rfl
  | keyword text => rfl
  | quoted text => rfl
  | and => rfl
  | or => rfl
  | rparen => rfl
  | not =>
    simp only [stepOperand, negate, hdepth, warnNesting]
    split
    · rfl
    · split <;> rfl
  | lparen =>
    simp only [stepOperand, openGroup, hdepth, warnNesting]
    split
    · rfl
    · split <;> rfl

/-- Before the start of an operand an AND may go unwritten. -/
theorem feed_of_opensOperand {p : Parser} {tokens : List Token} (hexpects : p.expects = .operator)
    (hopens : opensOperand tokens = true) :
    p.feed tokens = p.feed (.and :: tokens) := by
  have hand : p.step .and = { p with expects := .operand } := by rw [step, hexpects]; rfl
  rw [feed_cons, hand]
  cases tokens with
  | nil => simp [opensOperand] at hopens
  | cons token rest =>
    have hstart : p.step token = p.stepOperand token := by
      rw [step, hexpects]
      cases token with
      | field name value raw => rfl
      | not => rfl
      | lparen => rfl
      | keyword text => simp [opensOperand] at hopens
      | quoted text => simp [opensOperand] at hopens
      | and => simp [opensOperand] at hopens
      | or => simp [opensOperand] at hopens
      | rparen => simp [opensOperand] at hopens
    have hdue : Parser.step { p with expects := .operand } token = p.stepOperand token :=
      stepOperand_expects p .operand token
    rw [feed_cons, feed_cons, hstart, hdue]

end Parser

/-! ### Production by production -/

/-- What it is to read a part of a query, from a machine at its start. All parts but a disjunction
come to one operand of their group, and a conjunction does so only where its group has none yet. A
disjunction makes up a whole group, whose value it is. -/
def Nonterminal.Reads (p : Parser) (tokens : List Token) (e : Option Expr) : Nonterminal → Prop
  | .disjunction =>
    p.group = {} → ∃ group : Group, group.value = e ∧ group.negations = 0 ∧
      (p.feed tokens).bare = { p with group := group, expects := .operator }.bare
  | .conjunction =>
    p.group.conjunction = none → p.group.negations = 0 →
      (p.feed tokens).bare = (p.addOperand e).bare
  | .negation => (p.feed tokens).bare = (p.addOperand e).bare
  | .primary => (p.feed tokens).bare = (p.addOperand e).bare

/-- Tokens are read as a part that stands for `e`, whatever is around them, if the depths of their
NOTs and opening parentheses are within the limit. -/
def ReadsAs (s : Nonterminal) (tokens : List Token) (depths : Nat → List Nat) (e : Option Expr) :
    Prop :=
  ∀ p : Parser, p.expects = .operand → (∀ n ∈ depths p.depth, (n : Int) ≤ p.limit) →
    s.Reads p tokens e

namespace ReadsAs

open MailSearch.Query.Parser

variable {ls rs ts : List Token} {dl dr ds : Nat → List Nat} {l r e : Option Expr}

theorem field (name value raw : String) :
    ReadsAs .primary [.field name value raw] (fun _ => [])
      ((resolve name value).value.map .leaf) := by
  intro p hexpects _
  show (p.feed [.field name value raw]).bare = _
  rw [feed_cons, feed_nil, step, hexpects]
  exact stripped_addField false p name value raw

theorem keyword (text : String) : ReadsAs .primary [.keyword text] (fun _ => []) none := by
  intro p hexpects _
  show (p.feed [.keyword text]).bare = _
  rw [feed_cons, feed_nil, step, hexpects]
  rfl

theorem quoted (text : String) : ReadsAs .primary [.quoted text] (fun _ => []) none := by
  intro p hexpects _
  show (p.feed [.quoted text]).bare = _
  rw [feed_cons, feed_nil, step, hexpects]
  rfl

/-- A group is one operand: its value. -/
theorem group (h : ReadsAs .disjunction ts ds e) :
    ReadsAs .primary (.lparen :: (ts ++ [.rparen]))
      (fun outer => (outer + 1) :: ds (outer + 1)) e := by
  intro p hexpects hdepths
  simp only [List.mem_cons, forall_eq_or_imp] at hdepths
  obtain ⟨hlevel, hinner⟩ := hdepths
  let q : Parser := { p with group := {}, enclosing := p.group :: p.enclosing, expects := .operand }
  have hopen : p.step .lparen = q := by
    rw [step, hexpects]
    exact if_pos (by omega)
  have hq : q.depth = p.depth + 1 := by simp only [q, depth, Group.nesting]; omega
  obtain ⟨g, hvalue, -, hfeed⟩ := h q rfl (by rw [hq]; exact hinner) rfl
  show (p.feed (.lparen :: (ts ++ [.rparen]))).bare = _
  rw [feed_cons, hopen, feed_append, bare_feed_congr hfeed]
  -- the parenthesis hands the value of the group to the group around it
  show (p.addOperand g.value).bare = _
  rw [hvalue]

/-- A NOT is a negation of the operand after it. -/
theorem not (h : ReadsAs .negation ts ds e) :
    ReadsAs .negation (.not :: ts) (fun outer => (outer + 1) :: ds (outer + 1)) (e.map .not) := by
  intro p hexpects hdepths
  simp only [List.mem_cons, forall_eq_or_imp] at hdepths
  obtain ⟨hlevel, hinner⟩ := hdepths
  let q : Parser :=
    { p with group := { p.group with negations := p.group.negations + 1 }, expects := .operand }
  have hnegate : p.step .not = q := by
    rw [step, hexpects]
    exact if_pos (by omega)
  have hq : q.depth = p.depth + 1 := by simp only [q, depth]; omega
  have hfeed : (q.feed ts).bare = (q.addOperand e).bare := h q rfl (by rw [hq]; exact hinner)
  have hadd : q.addOperand e = p.addOperand (e.map .not) := by
    simp only [addOperand, q, Group.addOperand_negated]
  show (p.feed (.not :: ts)).bare = _
  rw [feed_cons, hnegate, hfeed, hadd]

/-- An AND adds its right side to what has been read of the conjunction. -/
theorem and (hl : ReadsAs .conjunction ls dl l) (hr : ReadsAs .negation rs dr r) :
    ReadsAs .conjunction (ls ++ .and :: rs) (fun outer => dl outer ++ dr outer)
      (Option.merge .and l r) := by
  intro p hexpects hdepths hconjunction hnegations
  simp only [List.mem_append, or_imp, forall_and] at hdepths
  obtain ⟨hleft, hright⟩ := hdepths
  have hfeedl : (p.feed ls).bare = (p.addOperand l).bare :=
    hl p hexpects hleft hconjunction hnegations
  let q : Parser := { p.addOperand l with expects := .operand }
  have hq : q.depth = p.depth := by simp only [q, depth, addOperand, Group.addOperand, hnegations]
  have hfeedr : (q.feed rs).bare = (q.addOperand r).bare := hr q rfl (by rw [hq]; exact hright)
  have hadd : q.addOperand r = p.addOperand (Option.merge .and l r) := by
    have hnext : ({ p.group with conjunction := l } : Group).addOperand r
        = { p.group with conjunction := Option.merge .and l r } := by
      have hnegate : Expr.negate 0 = id := rfl
      simp [Group.addOperand, hnegations, hnegate]
    simp only [q, addOperand, Group.addOperand_of_fresh hconjunction hnegations, hnext]
  have hstep : (p.addOperand l).step .and = q := rfl
  rw [feed_append, bare_feed_congr hfeedl, feed_cons, hstep, hfeedr, hadd]

/-- An AND that is not written counts as one that is. -/
theorem adjacent (hl : ReadsAs .conjunction ls dl l) (hr : ReadsAs .negation rs dr r)
    (hopens : opensOperand rs = true) :
    ReadsAs .conjunction (ls ++ rs) (fun outer => dl outer ++ dr outer)
      (Option.merge .and l r) := by
  intro p hexpects hdepths hconjunction hnegations
  have hwritten := hl.and hr p hexpects hdepths hconjunction hnegations
  simp only [List.mem_append, or_imp, forall_and] at hdepths
  have hfeedl : (p.feed ls).bare = (p.addOperand l).bare :=
    hl p hexpects hdepths.1 hconjunction hnegations
  rw [feed_append, bare_feed_congr hfeedl] at hwritten ⊢
  rw [feed_of_opensOperand rfl hopens, hwritten]

/-- A conjunction alone is the value of a group that had nothing. -/
theorem first (h : ReadsAs .conjunction ts ds e) : ReadsAs .disjunction ts ds e := by
  intro p hexpects hdepths hgroup
  have hfresh : p.group.addOperand e = { conjunction := e } := by
    rw [hgroup]; exact Group.addOperand_of_fresh rfl rfl e
  refine ⟨p.group.addOperand e, ?_, rfl, ?_⟩
  · rw [hfresh]; exact Option.merge_none_left
  · exact h p hexpects hdepths (by rw [hgroup]) (by rw [hgroup])

/-- An OR adds the conjunction on its right to the value of the group. -/
theorem or (hl : ReadsAs .disjunction ls dl l) (hr : ReadsAs .conjunction rs dr r) :
    ReadsAs .disjunction (ls ++ .or :: rs) (fun outer => dl outer ++ dr outer)
      (Option.merge .or l r) := by
  intro p hexpects hdepths hgroup
  simp only [List.mem_append, or_imp, forall_and] at hdepths
  obtain ⟨hleft, hright⟩ := hdepths
  obtain ⟨g, hvalue, hnegations, hfeedl⟩ := hl p hexpects hleft hgroup
  let q : Parser := { p with group := g.nextAlternative, expects := .operand }
  have hq : q.depth = p.depth := by
    simp only [q, depth, Group.nextAlternative, hnegations, hgroup]
  have hfeedr : (q.feed rs).bare = (q.addOperand r).bare :=
    hr q rfl (by rw [hq]; exact hright) rfl hnegations
  refine ⟨g.nextAlternative.addOperand r, ?_, rfl, ?_⟩
  · have hfresh : g.nextAlternative.addOperand r = { g.nextAlternative with conjunction := r } :=
      Group.addOperand_of_fresh rfl (show g.nextAlternative.negations = 0 from hnegations) r
    rw [hfresh]
    simp only [Group.value, Group.nextAlternative, ← hvalue]
  · rw [feed_append, bare_feed_congr hfeedl]
    exact hfeedr

end ReadsAs

/-- **What a derivation derives is read as what it stands for.** Induction on the derivation, one
production after the other. -/
theorem Derivation.readsAs {s : Nonterminal} {ts : List Token} (D : Derivation s ts) :
    ReadsAs s ts (fun outer => D.depths outer) D.denotation := by
  induction D with
  | first _ ih => exact ih.first
  | or _ _ ihl ihr => exact ihl.or ihr
  | operand _ ih => exact fun p hexpects hdepths _ _ => ih p hexpects hdepths
  | and _ _ ihl ihr => exact ihl.and ihr
  | adjacent _ _ opens ihl ihr => exact ihl.adjacent ihr opens
  | not _ ih => exact ih.not
  | primary _ ih => exact ih
  | group _ ih => exact ih.group
  | field name value raw => exact .field name value raw
  | keyword text => exact .keyword text
  | quoted text => exact .quoted text

/-- **A query that the grammar derives is read as the grammar says.** If no NOT and no opening
parenthesis of a derivation lies deeper than the limit, which the ceiling caps, then parsing its
tokens gives exactly its denotation as the expression, and no warning of deep nesting. -/
theorem parseTokens_of_derivation {ts : List Token} (D : Derivation .disjunction ts)
    (maxDepth : Int) (hdepths : ∀ n ∈ D.depths 0, (n : Int) ≤ min maxDepth maxDepthCeiling) :
    (parseTokens maxDepth ts).value.expression = D.denotation ∧
      ∀ limit : Int, .nestingIgnored limit ∉ (parseTokens maxDepth ts).events := by
  let p := Parser.start maxDepth
  have hstart : p.bare = { limit := min maxDepth maxDepthCeiling } := Parser.bare_start maxDepth
  have hlimit : p.limit = min maxDepth maxDepthCeiling := congrArg Parser.limit hstart
  have hdepth : p.depth = 0 := congrArg Parser.depth hstart
  obtain ⟨g, hvalue, -, hfeed⟩ := D.readsAs p (congrArg Parser.expects hstart)
    (by rw [hdepth, hlimit]; exact hdepths) (congrArg Parser.group hstart)
  constructor
  · have hfinished : (p.feed ts).finished = none :=
      (congrArg Parser.finished hfeed).trans (congrArg Parser.finished hstart)
    have henclosing : p.enclosing = [] := congrArg Parser.enclosing hstart
    have hfeedvalue : (p.feed ts).value = g.value := by
      rw [← Parser.value_bare, hfeed, Parser.value_bare]
      simp only [Parser.value, henclosing, List.foldl_nil]
    show Option.merge .and (p.feed ts).finished (p.feed ts).value = D.denotation
    rw [hfinished, hfeedvalue, hvalue, Option.merge_none_left]
  · have hwarned : (p.feed ts).warned = false :=
      (congrArg Parser.warned hfeed).trans (congrArg Parser.warned hstart)
    exact ((Parser.WarnsOnce.start maxDepth).feed ts).notMem_events hwarned

/-- `NOT (from:a OR memo) to:b` has an operand that is kept as a keyword, and an AND that is not
written; it nests two levels, which a limit of two allows. -/
theorem parseTokens_of_nested_derivation :
    ∃ D : Derivation .disjunction [.not, .lparen, .field "from" "a" "from:a", .or, .keyword "memo",
        .rparen, .field "to" "b" "to:b"],
      (∀ n ∈ D.depths 0, (n : Int) ≤ min 2 maxDepthCeiling) ∧
      (parseTokens 2 [.not, .lparen, .field "from" "a" "from:a", .or, .keyword "memo", .rparen,
          .field "to" "b" "to:b"]).value.expression
        = some (.and (.not (.leaf (.text .sender .eq "a")))
            (.leaf (.text .recipient .eq "b"))) := by
  let inner : Derivation .disjunction [.field "from" "a" "from:a", .or, .keyword "memo"] :=
    .or (.first (.operand (.primary (.field "from" "a" "from:a"))))
      (.operand (.primary (.keyword "memo")))
  let D : Derivation .disjunction [.not, .lparen, .field "from" "a" "from:a", .or, .keyword "memo",
      .rparen, .field "to" "b" "to:b"] :=
    .first (.adjacent (.operand (.not (.primary (.group inner))))
      (.primary (.field "to" "b" "to:b")) rfl)
  have hdepths : ∀ n ∈ D.depths 0, (n : Int) ≤ min 2 maxDepthCeiling := by
    decide
  exact ⟨D, hdepths, (parseTokens_of_derivation D 2 hdepths).1⟩

end Query

end MailSearch
