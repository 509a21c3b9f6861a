import MailSearch.Proofs.Query.Collection
import MailSearch.Proofs.Query.Grammar
import MailSearch.Proofs.Query.Joint
import MailSearch.Proofs.Query.Leaves
import MailSearch.Proofs.Query.Restart

/-!
# Counting the parentheses of a query

A query of filters, AND, OR and groups is read as its parentheses are counted, under every limit on
the nesting. `Tally.step` counts the groups that are open, never beyond the limit, and with them
keeps the joints between the filters. It looks at nothing that has been read.

The machine keeps its operands in the groups that are open, and in what it finished before. Read as
one stack (`Group.waitingIn`), they wait for the joints of the tally, and every step keeps that
(`Parser.tallies_feed`). So the joints of the tally and the filters are all that the expression of a
query depends on (`exists_expression_of_alternates`).
-/

namespace MailSearch.Query

open Joint

/-! ### The tally -/

/-- What counting has come to in the middle of a query. -/
structure Tally where
  /-- How many groups are open. -/
  opened : Nat := 0
  /-- The joints so far, the latest first, and in front of them the one that the next filter will be
  joined by. -/
  joints : List Joint := []
  /-- Whether an opening parenthesis has not been counted. -/
  capped : Bool := false
  deriving DecidableEq, Repr

namespace Joint

/-- The joint after an OR has been read. Outside of the query it stays an AND. -/
def alternative (joint : Joint) : Joint :=
  if joint.level = 0 then joint else { joint with connective := .or }

end Joint

namespace Tally

/-- Counts a token. An opening parenthesis is counted unless the limit is reached, a closing one
always; outside of all groups it leaves the level zero behind. -/
def step (limit : Nat) (tally : Tally) : Token → Tally
  | .field .. => { tally with joints := ⟨tally.opened + 1, .and⟩ :: tally.joints }
  | .lparen =>
    { tally with
      opened := min (tally.opened + 1) limit
      capped := tally.capped || decide (limit ≤ tally.opened) }
  | .rparen =>
    { tally with
      opened := tally.opened - 1
      joints := tally.joints.modifyHead fun _ => ⟨tally.opened, .and⟩ }
  | .or => { tally with joints := tally.joints.modifyHead Joint.alternative }
  | .and | .not | .keyword _ | .quoted _ => tally

def feed (limit : Nat) (tally : Tally) (tokens : List Token) : Tally :=
  tokens.foldl (step limit) tally

@[simp] theorem feed_nil (limit : Nat) (tally : Tally) : tally.feed limit [] = tally := rfl

@[simp] theorem feed_cons (limit : Nat) (tally : Tally) (token : Token) (tokens : List Token) :
    tally.feed limit (token :: tokens) = (tally.step limit token).feed limit tokens := rfl

end Tally

/-- The joints between the filters of a query, the latest first, when at most `limit` groups are
counted at a time. -/
def joints (limit : Nat) (tokens : List Token) : List Joint :=
  (Tally.feed limit {} tokens).joints.tail

/-! ### Plain queries -/

namespace Token

/-- Whether a token is a field term that asks for a filter, an AND, an OR or a parenthesis. -/
def isPlain : Token → Bool
  | field name value _ => (resolve name value).value.isSome
  | and | or | lparen | rparen => true
  | not | keyword _ | quoted _ => false

end Token

/-- Tokens that stand where an operand or an operator is due, each where it may, up to a place where
an operator is due. Whether the parentheses match is left open. -/
inductive Alternates : Expects → List Token → Prop
  | done : Alternates .operator []
  | field {expects : Expects} {name value raw : String} {filter : Filter} {ts : List Token}
      (hresolve : (resolve name value).value = some filter) (hrest : Alternates .operator ts) :
      Alternates expects (.field name value raw :: ts)
  | lparen {expects : Expects} {ts : List Token} (hrest : Alternates .operand ts) :
      Alternates expects (.lparen :: ts)
  | rparen {ts : List Token} (hrest : Alternates .operator ts) :
      Alternates .operator (.rparen :: ts)
  | and {ts : List Token} (hrest : Alternates .operand ts) : Alternates .operator (.and :: ts)
  | or {ts : List Token} (hrest : Alternates .operand ts) : Alternates .operator (.or :: ts)

namespace Alternates

/-- What starts an operand may stand where an operator is due, for an AND that is not written. -/
theorem of_operand {ts : List Token} (h : Alternates .operand ts) : Alternates .operator ts := by
  cases h with
  | field hresolve hrest => exact .field hresolve hrest
  | lparen hrest => exact .lparen hrest

/-- An operand has a filter. -/
theorem filter?_ne_nil {ts : List Token} (h : Alternates .operand ts) :
    ts.filterMap Token.filter? ≠ [] := by
  generalize hexpects : Expects.operand = expects at h
  induction h with
  | done => cases hexpects
  | field hresolve _ => simp [Token.filter?, hresolve]
  | lparen _ ih => exact ih rfl
  | rparen => cases hexpects
  | and => cases hexpects
  | or => cases hexpects

/-- A part of a plain query stands where an operand is due, before what may stand where an operator
is. -/
theorem of_derivation {s : Nonterminal} {ts : List Token} (D : Derivation s ts)
    (hplain : ∀ token ∈ ts, token.isPlain = true) {rest : List Token}
    (hrest : Alternates .operator rest) : Alternates .operand (ts ++ rest) := by
  induction D generalizing rest with
  | first only ih => exact ih hplain hrest
  | @or ls rs left right ihl ihr =>
    have hr := ihr (fun token hmem => hplain token (by simp [hmem])) hrest
    rw [List.append_assoc]
    exact ihl (fun token hmem => hplain token (by simp [hmem])) (.or hr)
  | operand only ih => exact ih hplain hrest
  | @and ls rs left right ihl ihr =>
    have hr := ihr (fun token hmem => hplain token (by simp [hmem])) hrest
    rw [List.append_assoc]
    exact ihl (fun token hmem => hplain token (by simp [hmem])) (.and hr)
  | @adjacent ls rs left right opens ihl ihr =>
    have hr := ihr (fun token hmem => hplain token (by simp [hmem])) hrest
    rw [List.append_assoc]
    exact ihl (fun token hmem => hplain token (by simp [hmem])) hr.of_operand
  | not inner ih => exact absurd (hplain .not (by simp)) nofun
  | primary only ih => exact ih hplain hrest
  | @group ts inner ih =>
    have hinner := ih (fun token hmem => hplain token (by simp [hmem])) (.rparen hrest)
    rw [List.cons_append, List.append_assoc]
    exact .lparen hinner
  | field name value raw =>
    obtain ⟨filter, hresolve⟩ := Option.isSome_iff_exists.1 (hplain _ List.mem_cons_self)
    exact .field hresolve hrest
  | keyword text => exact absurd (hplain (.keyword text) (by simp)) nofun
  | quoted text => exact absurd (hplain (.quoted text) (by simp)) nofun

end Alternates

/-! ### The groups as a stack -/

namespace Group

/-- The operands that wait in a group of a level. -/
def waiting (level : Nat) (group : Group) : List (Joint × Expr) :=
  (group.conjunction.map (⟨level, .and⟩, ·)).toList
    ++ (group.disjunction.map (⟨level, .or⟩, ·)).toList

/-- The operands that wait in a group and in those around it. -/
def waitingIn : List Group → List (Joint × Expr)
  | [] => []
  | group :: enclosing => group.waiting enclosing.length ++ waitingIn enclosing

variable {group : Group} {enclosing : List Group} {joints : List Joint} {joint : Joint} {e : Expr}

theorem waitingIn_of_conjunction (h : group.conjunction = some e) :
    waitingIn (group :: enclosing)
      = (⟨enclosing.length, .and⟩, e)
        :: waitingIn ({ group with conjunction := none } :: enclosing) := by
  simp [waitingIn, waiting, h]

theorem waitingIn_of_disjunction (hconjunction : group.conjunction = none)
    (hdisjunction : group.disjunction = some e) :
    waitingIn (group :: enclosing) = (⟨enclosing.length, .or⟩, e) :: waitingIn enclosing := by
  simp [waitingIn, waiting, hconjunction, hdisjunction]

theorem waitingIn_of_fresh (hconjunction : group.conjunction = none)
    (hdisjunction : group.disjunction = none) :
    waitingIn (group :: enclosing) = waitingIn enclosing := by
  simp [waitingIn, waiting, hconjunction, hdisjunction]

/-- Without a conjunction, all that waits in a group joins later than an AND of the group, if what
waits around it does. -/
theorem rank_lt_of_conjunction_eq_none (hconjunction : group.conjunction = none)
    (houter : ∀ outer ∈ (waitingIn enclosing).head?.map Prod.fst,
      outer.rank < 2 * enclosing.length)
    (h : joint ∈ (waitingIn (group :: enclosing)).head?.map Prod.fst) :
    joint.rank < 2 * enclosing.length + 1 := by
  cases hdisjunction : group.disjunction with
  | some e =>
    rw [waitingIn_of_disjunction hconjunction hdisjunction] at h
    obtain rfl : ⟨enclosing.length, .or⟩ = joint := by simpa using h
    rw [rank_or]
    omega
  | none =>
    rw [waitingIn_of_fresh hconjunction hdisjunction] at h
    exact Nat.lt_succ_of_lt (houter joint h)

/-- What waits in some groups joins later than all that may wait in one more group inside. -/
theorem rank_lt_of_waitingIn {groups : List Group}
    (h : joint ∈ (waitingIn groups).head?.map Prod.fst) : joint.rank < 2 * groups.length := by
  induction groups generalizing joint with
  | nil => cases h
  | cons group enclosing ih =>
    rw [List.length_cons]
    cases hconjunction : group.conjunction with
    | some e =>
      rw [waitingIn_of_conjunction hconjunction] at h
      obtain rfl : ⟨enclosing.length, .and⟩ = joint := by simpa using h
      rw [rank_and]
      omega
    | none =>
      have hlt := rank_lt_of_conjunction_eq_none hconjunction (fun _ => ih) h
      omega

/-- Added to a group, the operand on top waits for an AND of that group. -/
theorem waiting_addOperand (hnegations : group.negations = 0)
    (hrank : 2 * enclosing.length + 1 ≤ joint.rank)
    (h : Waiting ((joint, e) :: waitingIn (group :: enclosing)) joints) :
    Waiting (waitingIn (group.addOperand (some e) :: enclosing))
      (joints.modifyHead fun _ => ⟨enclosing.length, .and⟩) := by
  have hnegate : Expr.negate group.negations e = e := by rw [hnegations]; rfl
  cases hconjunction : group.conjunction with
  | some left =>
    have hadded : (group.addOperand (some e)).conjunction = some (.and left e) := by
      simp [addOperand, hconjunction, hnegate]
    rw [waitingIn_of_conjunction hconjunction] at h
    rw [waitingIn_of_conjunction hadded]
    exact h.join
  | none =>
    have hadded : (group.addOperand (some e)).conjunction = some e := by
      simp [addOperand, hconjunction, hnegate]
    have hgroup : { group.addOperand (some e) with conjunction := none } = group := by
      simp [addOperand, ← hconjunction, ← hnegations]
    rw [waitingIn_of_conjunction hadded, hgroup]
    refine h.lower hrank fun earlier hearlier => ?_
    exact rank_lt_of_conjunction_eq_none hconjunction (fun _ => rank_lt_of_waitingIn) hearlier

/-- All that waits in a group comes to its value, which waits for an OR of the group. -/
theorem waiting_value (hvalue : group.value = some e)
    (h : Waiting (waitingIn (group :: enclosing)) joints) :
    Waiting ((⟨enclosing.length, .or⟩, e) :: waitingIn enclosing)
      (joints.modifyHead fun _ => ⟨enclosing.length, .or⟩) := by
  have houter : ∀ earlier ∈ (waitingIn enclosing).head?.map Prod.fst,
      earlier.rank < rank ⟨enclosing.length, .or⟩ := fun _ => rank_lt_of_waitingIn
  cases hconjunction : group.conjunction with
  | none =>
    have hdisjunction : group.disjunction = some e := by
      simpa [value, hconjunction] using hvalue
    rw [waitingIn_of_disjunction hconjunction hdisjunction] at h
    exact h.lower (Nat.le_refl _) houter
  | some right =>
    rw [waitingIn_of_conjunction hconjunction] at h
    cases hdisjunction : group.disjunction with
    | none =>
      obtain rfl : right = e := by simpa [value, hconjunction, hdisjunction] using hvalue
      have hrest : waitingIn ({ group with conjunction := none } :: enclosing)
          = waitingIn enclosing := waitingIn_of_fresh rfl hdisjunction
      rw [hrest] at h
      exact h.lower (Nat.le_succ _) houter
    | some left =>
      obtain rfl : .or left right = e := by simpa [value, hconjunction, hdisjunction] using hvalue
      have hrest : waitingIn ({ group with conjunction := none } :: enclosing)
          = (⟨enclosing.length, .or⟩, left) :: waitingIn enclosing :=
        waitingIn_of_disjunction rfl hdisjunction
      rw [hrest] at h
      exact h.join

/-- A group that is closed is an operand of the group around it. -/
theorem waiting_close {outer : Group} (hvalue : group.value = some e)
    (hnegations : outer.negations = 0)
    (h : Waiting (waitingIn (group :: outer :: enclosing)) joints) :
    Waiting (waitingIn (outer.addOperand (some e) :: enclosing))
      (joints.modifyHead fun _ => ⟨enclosing.length, .and⟩) := by
  have hclosed := waiting_addOperand hnegations
    (by rw [rank_or, List.length_cons]; omega) (waiting_value hvalue h)
  rw [List.modifyHead_modifyHead] at hclosed
  exact hclosed

theorem exists_conjunction_addOperand (group : Group) (e : Expr) :
    ∃ conjunction : Expr, (group.addOperand (some e)).conjunction = some conjunction := by
  unfold addOperand
  cases group.conjunction with
  | none => exact ⟨Expr.negate group.negations e, rfl⟩
  | some left => exact ⟨.and left (Expr.negate group.negations e), rfl⟩

theorem value_eq_none_iff :
    group.value = none ↔ group.disjunction = none ∧ group.conjunction = none :=
  Option.merge_eq_none_iff

/-- What was finished before waits as the only operand of a group outside of the query. -/
theorem waitingIn_finished (finished : Option Expr) :
    waitingIn [{ conjunction := finished }] = (finished.map (⟨0, .and⟩, ·)).toList := by
  cases finished <;> rfl

/-- After an OR, the joint on top is an OR of the group. -/
theorem waiting_nextAlternative (hconjunction : group.conjunction = some e)
    (henclosing : enclosing.length ≠ 0) (h : Waiting (waitingIn (group :: enclosing)) joints) :
    Waiting (waitingIn (group.nextAlternative :: enclosing))
      (joints.modifyHead Joint.alternative) := by
  obtain ⟨value, hvalue⟩ : ∃ value, group.value = some value :=
    Option.ne_none_iff_exists'.1 fun hnone =>
      Option.some_ne_none e (hconjunction.symm.trans (value_eq_none_iff.1 hnone).2)
  have hnext : group.nextAlternative.disjunction = some value := hvalue
  have hor := waiting_value hvalue h
  have hhead := h.head?_eq
  rw [waitingIn_of_conjunction hconjunction] at hhead
  rw [waitingIn_of_disjunction rfl hnext]
  cases joints with
  | nil => cases hhead
  | cons joint before =>
    obtain rfl : joint = ⟨enclosing.length, .and⟩ := by simpa using hhead
    simpa [Joint.alternative, henclosing] using hor

/-- An OR with nothing before it in the query leaves the joint on top outside of the query. -/
theorem waiting_nextAlternative_of_fresh {finished : Option Expr}
    (hconjunction : group.conjunction = none) (hdisjunction : group.disjunction = none)
    (h : Waiting (waitingIn [group, { conjunction := finished }]) joints) :
    Waiting (waitingIn [group.nextAlternative, { conjunction := finished }])
      (joints.modifyHead Joint.alternative) := by
  have hnext : group.nextAlternative.disjunction = none :=
    value_eq_none_iff.2 ⟨hdisjunction, hconjunction⟩
  rw [waitingIn_of_fresh hconjunction hdisjunction, waitingIn_finished] at h
  rw [waitingIn_of_fresh rfl hnext, waitingIn_finished]
  have hhead := h.head?_eq
  cases finished with
  | none => cases h; exact .nil
  | some e =>
    cases joints with
    | nil => cases hhead
    | cons joint before =>
      obtain rfl : joint = ⟨0, .and⟩ := by simpa using hhead
      exact h

/-- With all groups closed, one expression is left at most. Induction on the groups around. -/
theorem waiting_closeAll {finished : Option Expr} (hopen : group.value = none → enclosing = [])
    (hnegations : ∀ outer ∈ enclosing, outer.negations = 0)
    (h : Waiting (waitingIn (group :: (enclosing ++ [{ conjunction := finished }]))) joints) :
    Waiting ((Option.merge .and finished (enclosing.foldl
        (fun inner outer => (outer.addOperand inner).value) group.value)).map (⟨0, .and⟩, ·)).toList
      (joints.modifyHead fun _ => ⟨0, .and⟩) := by
  induction enclosing generalizing group joints with
  | nil =>
    cases hvalue : group.value with
    | some e =>
      have hclosed := waiting_close hvalue (by rfl) h
      have hnegate : Expr.negate 0 e = e := rfl
      simpa [waitingIn, waiting, addOperand, hnegate] using hclosed
    | none =>
      obtain ⟨hdisjunction, hconjunction⟩ := value_eq_none_iff.1 hvalue
      rw [List.nil_append, waitingIn_of_fresh hconjunction hdisjunction, waitingIn_finished] at h
      cases finished with
      | none => cases h; exact .nil
      | some e => exact h.lower (Nat.le_refl _) (by simp)
  | cons outer enclosing ih =>
    obtain ⟨e, hvalue⟩ := Option.ne_none_iff_exists'.1 fun hnone =>
      List.cons_ne_nil outer enclosing (hopen hnone)
    have hclosed := waiting_close hvalue (hnegations outer List.mem_cons_self) h
    obtain ⟨conjunction, hconjunction⟩ := exists_conjunction_addOperand outer e
    have hsome : (outer.addOperand (some e)).value = none → enclosing = [] := fun hnone =>
      absurd (hconjunction.symm.trans (value_eq_none_iff.1 hnone).2) (Option.some_ne_none _)
    have hrest := ih hsome (fun other hmem => hnegations other (List.mem_cons_of_mem _ hmem))
      hclosed
    rw [List.modifyHead_modifyHead] at hrest
    rw [List.foldl_cons, hvalue]
    exact hrest

end Group

/-! ### The machine and the tally -/

theorem Group.nesting_eq_length {groups : List Group} (h : ∀ group ∈ groups, group.negations = 0) :
    Group.nesting groups = groups.length := by
  induction groups with
  | nil => rfl
  | cons group enclosing ih =>
    have hgroup := h group List.mem_cons_self
    have henclosing := ih fun outer hmem => h outer (List.mem_cons_of_mem _ hmem)
    rw [nesting, List.length_cons]
    omega

namespace Parser

/-- The groups around the innermost one, and around them what the machine finished before, as one
more group. -/
def around (p : Parser) : List Group :=
  p.enclosing ++ [{ conjunction := p.finished }]

/-- The groups that are open. -/
def groups (p : Parser) : List Group :=
  p.group :: p.around

/-- The machine has opened as many groups as the tally has counted, without negations, and its
operands wait for the joints of the tally. It has warned if a parenthesis was not counted. -/
structure Tallies (p : Parser) (limit : Nat) (tally : Tally) : Prop where
  limit_eq : p.limit = limit
  warned_eq : p.warned = tally.capped
  opened_eq : p.enclosing.length = tally.opened
  opened_le : tally.opened ≤ limit
  negations_eq : ∀ group ∈ p.groups, group.negations = 0
  waiting : Waiting (Group.waitingIn p.groups) tally.joints

/-- What is known of the machine where something is due. Before an operator an operand has been read
in the innermost group; or the machine has started anew outside of all groups and has read nothing
since. -/
def IsAt (p : Parser) : Expects → Prop
  | .operand => True
  | .operator =>
    p.expects = .operator ∧
      (p.group.conjunction = none → p.enclosing = [] ∧ p.group.disjunction = none)

theorem isAt_addOperand (p : Parser) (e : Expr) : (p.addOperand (some e)).IsAt .operator := by
  refine ⟨rfl, fun hnone => ?_⟩
  obtain ⟨conjunction, hsome⟩ := p.group.exists_conjunction_addOperand e
  exact absurd (hsome.symm.trans hnone) (Option.some_ne_none conjunction)

namespace Tallies

variable {p q : Parser} {limit : Nat} {tally : Tally}

theorem start (hlimit : (limit : Int) ≤ maxDepthCeiling) :
    (Parser.start limit).Tallies limit {} := by
  have hstart : Parser.start limit = ({ limit := limit } : Parser) := if_neg (by omega)
  rw [hstart]
  refine ⟨rfl, rfl, rfl, Nat.zero_le _, ?_, .nil⟩
  simp [groups, around]

/-- What is kept beside the groups does not matter. -/
theorem congr (h : p.Tallies limit tally) (hlimit : q.limit = p.limit)
    (hwarned : q.warned = p.warned) (henclosing : q.enclosing = p.enclosing)
    (hgroups : q.groups = p.groups) :
    q.Tallies limit tally where
  limit_eq := hlimit.trans h.limit_eq
  warned_eq := hwarned.trans h.warned_eq
  opened_eq := by rw [henclosing, h.opened_eq]
  opened_le := h.opened_le
  negations_eq := by rw [hgroups]; exact h.negations_eq
  waiting := by rw [hgroups]; exact h.waiting

theorem negations_group (h : p.Tallies limit tally) : p.group.negations = 0 :=
  h.negations_eq p.group List.mem_cons_self

theorem negations_enclosing (h : p.Tallies limit tally) :
    ∀ group ∈ p.enclosing, group.negations = 0 := fun group hmem =>
  h.negations_eq group (List.mem_cons_of_mem _ (List.mem_append_left _ hmem))

/-- Without negations, the nesting is the number of groups. -/
theorem depth_eq (h : p.Tallies limit tally) : p.depth = tally.opened := by
  rw [depth, h.negations_group, Group.nesting_eq_length h.negations_enclosing, h.opened_eq,
    Nat.zero_add]

/-- A filter is pushed as if it stood in a group of its own, which is closed at once. -/
theorem addOperand (h : p.Tallies limit tally) (filter : Filter) :
    (p.addOperand (some (.leaf filter))).Tallies limit
      { tally with joints := ⟨tally.opened + 1, .and⟩ :: tally.joints } where
  limit_eq := h.limit_eq
  warned_eq := h.warned_eq
  opened_eq := h.opened_eq
  opened_le := h.opened_le
  negations_eq := by
    intro group hmem
    rcases List.mem_cons.1 hmem with rfl | hmem
    · rfl
    · exact h.negations_eq group (List.mem_cons_of_mem _ hmem)
  waiting := by
    have hlevel : p.around.length = tally.opened + 1 := by
      rw [around, List.length_append, h.opened_eq, List.length_singleton]
    have hlength : p.groups.length = tally.opened + 2 := congrArg (· + 1) hlevel
    have hpushed : Waiting ((⟨tally.opened + 2, .or⟩, .leaf filter) :: Group.waitingIn p.groups)
        (⟨tally.opened + 2, .or⟩ :: tally.joints) := by
      refine h.waiting.push filter fun earlier hearlier => ?_
      rw [h.waiting.head?_eq] at hearlier
      have hlt := Group.rank_lt_of_waitingIn hearlier
      rwa [hlength] at hlt
    have hadded := Group.waiting_addOperand h.negations_group
      (by rw [hlevel, rank_or]; omega) hpushed
    rw [hlevel] at hadded
    exact hadded

theorem openGroup (h : p.Tallies limit tally) :
    p.openGroup.Tallies limit (tally.step limit .lparen) := by
  have hdepth := h.depth_eq
  have hlimit := h.limit_eq
  have hle := h.opened_le
  unfold Parser.openGroup
  split
  · have hcounted : tally.step limit .lparen = { tally with opened := tally.opened + 1 } := by
      have hopened : min (tally.opened + 1) limit = tally.opened + 1 := by omega
      have hbelow : ¬ limit ≤ tally.opened := by omega
      simp [Tally.step, hopened, hbelow]
    have hwaits : Group.waitingIn ({} :: p.groups) = Group.waitingIn p.groups :=
      Group.waitingIn_of_fresh rfl rfl
    rw [hcounted]
    refine ⟨hlimit, h.warned_eq, ?_, by show tally.opened + 1 ≤ limit; omega, ?_, ?_⟩
    · rw [List.length_cons, h.opened_eq]
    · intro group hmem
      rcases List.mem_cons.1 hmem with rfl | hmem
      · rfl
      · exact h.negations_eq group hmem
    · show Waiting (Group.waitingIn ({} :: p.groups)) tally.joints
      rw [hwaits]
      exact h.waiting
  · -- the parenthesis is dropped, and counts as an absent operand
    have hcapped : tally.step limit .lparen = { tally with capped := true } := by
      have hopened : min (tally.opened + 1) limit = tally.opened := by omega
      have hreached : limit ≤ tally.opened := by omega
      simp [Tally.step, hopened, hreached]
    have hwarn : p.warnNesting.group = p.group ∧ p.warnNesting.enclosing = p.enclosing := by
      unfold warnNesting
      split <;> exact ⟨rfl, rfl⟩
    have hgroup : p.group.addOperand none = p.group := by
      simp [Group.addOperand, ← h.negations_group]
    have hgroups : (p.warnNesting.addOperand none).groups = p.groups := by
      show p.warnNesting.group.addOperand none :: p.warnNesting.around = p.groups
      rw [around, hwarn.1, hwarn.2, (Keeps.warnNesting p).finished, hgroup]
      rfl
    rw [hcapped]
    refine ⟨(Keeps.warnNesting p).limit.trans hlimit, warnNesting_warned p, ?_, hle, ?_, ?_⟩
    · rw [← h.opened_eq, ← hwarn.2]
      rfl
    · rw [hgroups]
      exact h.negations_eq
    · rw [hgroups]
      exact h.waiting

/-- The whole expression waits for what may be read outside of the query. -/
theorem waiting_expression (h : p.Tallies limit tally) (hat : p.IsAt .operator) :
    Waiting (p.parsed.expression.map (⟨0, .and⟩, ·)).toList
      (tally.joints.modifyHead fun _ => ⟨0, .and⟩) := by
  have hopen : p.group.value = none → p.enclosing = [] := fun hnone =>
    (hat.2 (Group.value_eq_none_iff.1 hnone).2).1
  exact Group.waiting_closeAll hopen h.negations_enclosing h.waiting

/-- Outside of all groups the machine starts anew. It has finished the whole expression then, as if
a group outside of the query had taken it in. -/
theorem restart (h : p.Tallies limit tally) (hat : p.IsAt .operator)
    (henclosing : p.enclosing = []) :
    (p.restart.addOperand none).Tallies limit (tally.step limit .rparen) := by
  have hopened : tally.opened = 0 := by rw [← h.opened_eq, henclosing]; rfl
  have hstep : tally.step limit .rparen
      = { tally with opened := 0, joints := tally.joints.modifyHead fun _ => ⟨0, .and⟩ } := by
    simp [Tally.step, hopened]
  have hgroups : (p.restart.addOperand none).groups
      = [{}, { conjunction := p.parsed.expression }] := rfl
  rw [hstep]
  refine ⟨h.limit_eq, h.warned_eq, rfl, Nat.zero_le _, by simp [hgroups], ?_⟩
  rw [hgroups, Group.waitingIn_of_fresh rfl rfl, Group.waitingIn_finished]
  exact h.waiting_expression hat

/-- The group that is closed becomes an operand of the group around it. -/
theorem closeInto {outer : Group} {enclosing : List Group} {e : Expr} (h : p.Tallies limit tally)
    (henclosing : p.enclosing = outer :: enclosing) (hvalue : p.group.value = some e) :
    (Parser.addOperand { p with group := outer, enclosing := enclosing } (some e)).Tallies limit
      (tally.step limit .rparen) := by
  have hopened : tally.opened = enclosing.length + 1 := by
    rw [← h.opened_eq, henclosing, List.length_cons]
  have hle := h.opened_le
  have hgroups : p.groups
      = p.group :: outer :: (enclosing ++ [{ conjunction := p.finished }]) := by
    rw [groups, around, henclosing]
    rfl
  have hnegations := h.negations_eq
  have hwaiting := h.waiting
  rw [hgroups] at hnegations hwaiting
  have hclosed := Group.waiting_close hvalue (hnegations outer (by simp)) hwaiting
  have hlevel : (enclosing ++ [({ conjunction := p.finished } : Group)]).length = tally.opened := by
    rw [hopened, List.length_append, List.length_singleton]
  rw [hlevel] at hclosed
  refine ⟨h.limit_eq, h.warned_eq, ?_, ?_, ?_, hclosed⟩
  · show enclosing.length = tally.opened - 1
    omega
  · show tally.opened - 1 ≤ limit
    omega
  · intro group hmem
    rcases List.mem_cons.1 hmem with rfl | hmem
    · rfl
    · exact hnegations group (List.mem_cons_of_mem _ (List.mem_cons_of_mem _ hmem))

theorem closeGroup (h : p.Tallies limit tally) (hat : p.IsAt .operator) :
    p.closeGroup.Tallies limit (tally.step limit .rparen) ∧ p.closeGroup.IsAt .operator := by
  unfold Parser.closeGroup
  cases henclosing : p.enclosing with
  | nil => exact ⟨h.restart hat henclosing, rfl, fun _ => ⟨rfl, rfl⟩⟩
  | cons outer enclosing =>
    obtain ⟨e, hvalue⟩ : ∃ e, p.group.value = some e :=
      Option.ne_none_iff_exists'.1 fun hnone => by
        have hempty := (hat.2 (Group.value_eq_none_iff.1 hnone).2).1
        exact List.cons_ne_nil outer enclosing (henclosing.symm.trans hempty)
    show (Parser.addOperand _ p.group.value).Tallies limit _ ∧
      (Parser.addOperand _ p.group.value).IsAt _
    rw [hvalue]
    exact ⟨h.closeInto henclosing hvalue, isAt_addOperand _ e⟩

theorem nextAlternative (h : p.Tallies limit tally) (hat : p.IsAt .operator) :
    ({ p with group := p.group.nextAlternative, expects := .operand } : Parser).Tallies limit
      (tally.step limit .or) := by
  refine ⟨h.limit_eq, h.warned_eq, h.opened_eq, h.opened_le, ?_, ?_⟩
  · intro group hmem
    rcases List.mem_cons.1 hmem with rfl | hmem
    · exact h.negations_group
    · exact h.negations_eq group (List.mem_cons_of_mem _ hmem)
  · show Waiting (Group.waitingIn (p.group.nextAlternative :: p.around))
      (tally.joints.modifyHead Joint.alternative)
    cases hconjunction : p.group.conjunction with
    | some e => exact Group.waiting_nextAlternative hconjunction (by simp [around]) h.waiting
    | none =>
      -- nothing has been read since the machine started anew, so there is nothing to put aside
      obtain ⟨henclosing, hdisjunction⟩ := hat.2 hconjunction
      have hwaiting := h.waiting
      rw [groups, around, henclosing] at hwaiting
      rw [around, henclosing]
      exact Group.waiting_nextAlternative_of_fresh hconjunction hdisjunction hwaiting

end Tallies

theorem step_field (p : Parser) (name value raw : String) :
    p.step (.field name value raw) = p.addField name value raw := by
  unfold step
  cases p.expects <;> rfl

theorem step_lparen (p : Parser) : p.step .lparen = p.openGroup := by
  unfold step
  cases p.expects <;> rfl

/-- A step where an operator is due is one of an operator. -/
theorem step_of_operator {p : Parser} (h : p.expects = .operator) (token : Token) :
    p.step token = p.stepOperator token := by
  rw [step, h]

/-- **The machine and the tally go together** over every list of tokens that stand where they may,
under every limit. Induction on the tokens. -/
theorem tallies_feed {limit : Nat} {expects : Expects} {ts : List Token}
    (hts : Alternates expects ts) {p : Parser} {tally : Tally} (h : p.Tallies limit tally)
    (hat : p.IsAt expects) :
    (p.feed ts).Tallies limit (tally.feed limit ts) ∧ (p.feed ts).IsAt .operator := by
  induction hts generalizing p tally with
  | done => exact ⟨h, hat⟩
  | @field _ name value raw filter ts hresolve _ ih =>
    have hstep : p.step (.field name value raw) = Parser.addOperand
        { p with
          events := p.events ++ (resolve name value).events
          filters := p.filters.push filter } (some (.leaf filter)) := by
      rw [step_field, addField, hresolve]
    have hfield : Parser.Tallies
        { p with
          events := p.events ++ (resolve name value).events
          filters := p.filters.push filter } limit tally := h.congr rfl rfl rfl rfl
    rw [feed_cons, hstep]
    exact ih (hfield.addOperand filter) (isAt_addOperand _ _)
  | lparen _ ih =>
    rw [feed_cons, step_lparen]
    exact ih h.openGroup trivial
  | rparen _ ih =>
    obtain ⟨hclosed, hclosedAt⟩ := h.closeGroup hat
    rw [feed_cons, step_of_operator hat.1]
    exact ih hclosed hclosedAt
  | and _ ih =>
    rw [feed_cons, step_of_operator hat.1]
    exact ih (h.congr rfl rfl rfl rfl) trivial
  | or _ ih =>
    rw [feed_cons, step_of_operator hat.1]
    exact ih (h.nextAlternative hat) trivial

end Parser

/-- **A plain query is read as its parentheses are counted**, under every limit. Its expression has
the filters of the query as its leaves and no negation, and its connectives span what the joints of
the tally say. There is no other expression like that (`Expr.IsPositive.eq_of_spans_eq`). -/
theorem exists_expression_of_alternates {limit : Nat} (hlimit : (limit : Int) ≤ maxDepthCeiling)
    {ts : List Token} (hts : Alternates .operand ts) :
    ∃ e : Expr, (parseTokens limit ts).value.expression = some e ∧ e.IsPositive ∧
      e.spans = spans (joints limit ts) ∧ e.inorder = ts.filterMap Token.filter? := by
  have hleaves : Expr.leavesOf (parseTokens limit ts).value.expression
      = ts.filterMap Token.filter? := by
    rw [leavesOf_parseTokens, filters_parseTokens]
  obtain ⟨h, hat⟩ := Parser.tallies_feed hts (Parser.Tallies.start hlimit) trivial
  have hwaiting : Waiting ((parseTokens limit ts).value.expression.map (⟨0, .and⟩, ·)).toList
      ((Tally.feed limit {} ts).joints.modifyHead fun _ => ⟨0, .and⟩) := h.waiting_expression hat
  cases hexpression : (parseTokens limit ts).value.expression with
  | none =>
    rw [hexpression] at hleaves
    exact absurd hleaves.symm hts.filter?_ne_nil
  | some e =>
    rw [hexpression] at hwaiting hleaves
    obtain ⟨hpositive, hspans⟩ := Waiting.single hwaiting
    rw [List.tail_modifyHead] at hspans
    exact ⟨e, rfl, hpositive, hspans, hleaves⟩

end MailSearch.Query
