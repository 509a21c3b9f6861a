import MailSearch.Proofs.Query.Limit
import MailSearch.Proofs.Query.Tally

/-!
# Groups deeper than the limit

The warning of deep nesting says that deeper groups are ignored, so a query should be read as if the
parentheses of these groups were not there (`withoutDeeper`). The machine ignores the opening ones
only. The parenthesis that belongs to an ignored one closes a group around it instead or, outside of
all groups, ends the query.

In the count of open groups the two differ in when the limit is applied. The machine caps the count
as it grows, so that it falls with every closing parenthesis; without the deeper groups it would be
capped as it is looked at. `Derivation.expression_withoutDeeper_iff` says when this makes no
difference to the expression.
-/

namespace MailSearch.Query

open Joint

/-- The tokens without the parentheses of the groups that are nested deeper than the limit, where
`opened` groups lie around them. -/
def withoutDeeper (limit : Nat) : Nat → List Token → List Token
  | _, [] => []
  | opened, .lparen :: ts =>
    if opened < limit then .lparen :: withoutDeeper limit (opened + 1) ts
    else withoutDeeper limit (opened + 1) ts
  | opened, .rparen :: ts =>
    if opened ≤ limit then .rparen :: withoutDeeper limit (opened - 1) ts
    else withoutDeeper limit (opened - 1) ts
  | opened, token :: ts => token :: withoutDeeper limit opened ts

/-! ### The parentheses of a group -/

/-- The parentheses around tokens that match theirs are left out together. -/
theorem withoutDeeper_group_append {limit : Nat} {ts : List Token}
    (h : ∀ (opened : Nat) (rest : List Token), withoutDeeper limit opened (ts ++ rest)
      = withoutDeeper limit opened ts ++ withoutDeeper limit opened rest)
    (opened : Nat) (rest : List Token) :
    withoutDeeper limit opened (.lparen :: (ts ++ .rparen :: rest))
      = (if opened < limit then .lparen :: (withoutDeeper limit (opened + 1) ts ++ [.rparen])
          else withoutDeeper limit (opened + 1) ts) ++ withoutDeeper limit opened rest := by
  rw [withoutDeeper, h, withoutDeeper, Nat.add_sub_cancel]
  split
  · rename_i hbelow
    rw [if_pos (Nat.succ_le_of_lt hbelow)]
    simp
  · rename_i hreached
    rw [if_neg fun hle => hreached (Nat.lt_of_succ_le hle)]

theorem withoutDeeper_append {s : Nonterminal} {ts : List Token} (D : Derivation s ts)
    (limit opened : Nat) (rest : List Token) :
    withoutDeeper limit opened (ts ++ rest)
      = withoutDeeper limit opened ts ++ withoutDeeper limit opened rest := by
  induction D generalizing opened rest with
  | first _ ih => exact ih opened rest
  | or _ _ ihl ihr => simp [ihl, ihr, withoutDeeper]
  | operand _ ih => exact ih opened rest
  | and _ _ ihl ihr => simp [ihl, ihr, withoutDeeper]
  | adjacent _ _ _ ihl ihr => simp [ihl, ihr]
  | not _ ih => simp [ih, withoutDeeper]
  | primary _ ih => exact ih opened rest
  | group _ ih =>
    have halone := withoutDeeper_group_append ih opened []
    rw [withoutDeeper, List.append_nil] at halone
    rw [List.cons_append, List.append_assoc, halone]
    exact withoutDeeper_group_append ih opened rest
  | field name value raw => rfl
  | keyword text => rfl
  | quoted text => rfl

/-- **A group loses both its parentheses or none.** -/
theorem withoutDeeper_group {ts : List Token} (D : Derivation .disjunction ts)
    (limit opened : Nat) :
    withoutDeeper limit opened (.lparen :: (ts ++ [.rparen]))
      = if opened < limit then .lparen :: (withoutDeeper limit (opened + 1) ts ++ [.rparen])
        else withoutDeeper limit (opened + 1) ts := by
  rw [withoutDeeper_group_append (withoutDeeper_append D limit), withoutDeeper, List.append_nil]

/-! ### What is left -/

theorem Alternates.withoutDeeper {expects : Expects} {ts : List Token} (h : Alternates expects ts)
    (limit opened : Nat) : Alternates expects (withoutDeeper limit opened ts) := by
  induction h generalizing opened with
  | done => exact .done
  | field hresolve _ ih => exact .field hresolve (ih opened)
  | @lparen expects ts _ ih =>
    have hrest := ih (opened + 1)
    rw [Query.withoutDeeper]
    split
    · exact .lparen hrest
    · cases expects with
      | operand => exact hrest
      | operator => exact hrest.of_operand
  | rparen _ ih =>
    have hrest := ih (opened - 1)
    rw [Query.withoutDeeper]
    split
    · exact .rparen hrest
    · exact hrest
  | and _ ih => exact .and (ih opened)
  | or _ ih => exact .or (ih opened)

/-- No filter is left out. -/
theorem filterMap_withoutDeeper (limit opened : Nat) (ts : List Token) :
    (withoutDeeper limit opened ts).filterMap Token.filter? = ts.filterMap Token.filter? := by
  fun_induction withoutDeeper limit opened ts with
  | case1 => rfl
  | case2 opened ts _ ih => exact ih
  | case3 opened ts _ ih => exact ih
  | case4 opened ts _ ih => exact ih
  | case5 opened ts _ ih => exact ih
  | case6 opened token ts _ _ ih => rw [List.filterMap_cons, List.filterMap_cons, ih]

/-- Without the deeper groups the count is never capped. -/
theorem capped_feed_withoutDeeper {limit opened : Nat} {tally : Tally} (ts : List Token)
    (hopened : tally.opened = min opened limit) :
    (tally.feed limit (withoutDeeper limit opened ts)).capped = tally.capped := by
  fun_induction withoutDeeper limit opened ts generalizing tally with
  | case1 => rfl
  | case2 opened ts hbelow ih =>
    have hstep : (tally.step limit .lparen).opened = min (opened + 1) limit := by
      show min (tally.opened + 1) limit = min (opened + 1) limit
      omega
    have hcapped : (tally.step limit .lparen).capped = tally.capped := by
      have hcounted : ¬ limit ≤ tally.opened := by omega
      simp [Tally.step, hcounted]
    rw [Tally.feed_cons, ih hstep, hcapped]
  | case3 opened ts _ ih => exact ih (by omega)
  | case4 opened ts _ ih =>
    have hstep : (tally.step limit .rparen).opened = min (opened - 1) limit := by
      show tally.opened - 1 = min (opened - 1) limit
      omega
    rw [Tally.feed_cons, ih hstep]
    rfl
  | case5 opened ts _ ih => exact ih (by omega)
  | case6 opened token ts hlparen hrparen ih =>
    have hstep : (tally.step limit token).opened = tally.opened ∧
        (tally.step limit token).capped = tally.capped := by
      cases token with
      | lparen => exact absurd rfl hlparen
      | rparen => exact absurd rfl hrparen
      | field | and | or | not | keyword | quoted => exact ⟨rfl, rfl⟩
    rw [Tally.feed_cons, ih (hstep.1.trans hopened), hstep.2]

/-- Without the deeper groups there is nothing to warn of. -/
theorem notMem_events_withoutDeeper {limit : Nat} (hlimit : (limit : Int) ≤ maxDepthCeiling)
    {ts : List Token} (hts : Alternates .operand ts) (warned : Int) :
    .nestingIgnored warned ∉ (parseTokens limit (withoutDeeper limit 0 ts)).events := by
  obtain ⟨h, -⟩ := Parser.tallies_feed (hts.withoutDeeper limit 0) (Parser.Tallies.start hlimit)
    trivial
  have hcapped : (Tally.feed limit {} (withoutDeeper limit 0 ts)).capped = false :=
    capped_feed_withoutDeeper ts (Nat.zero_min limit).symm
  exact ((Parser.WarnsOnce.start limit).feed _).notMem_events (h.warned_eq.trans hcapped) warned

/-! ### Where it makes no difference -/

/-- **When the deeper groups are ignored.** Take a query of filters, AND, OR and groups that the
grammar derives, under a limit that the ceiling does not lower. Without the parentheses of the
groups deeper than the limit it is parsed without a warning of deep nesting, under this limit and
every larger one. With them it has the same expression exactly if the joints span the same: if,
between any two filters side by side, there is the same connective, and it takes in as many filters
on its left. -/
theorem Derivation.expression_withoutDeeper_iff {ts : List Token} (D : Derivation .disjunction ts)
    (hplain : ∀ token ∈ ts, token.isPlain = true) (limit : Nat)
    (hlimit : (limit : Int) ≤ maxDepthCeiling) (maxDepth : Int) (hle : (limit : Int) ≤ maxDepth) :
    (∀ warned : Int,
      .nestingIgnored warned ∉ (parseTokens maxDepth (withoutDeeper limit 0 ts)).events) ∧
    ((parseTokens limit ts).value.expression
        = (parseTokens maxDepth (withoutDeeper limit 0 ts)).value.expression ↔
      spans (joints limit ts) = spans (joints limit (withoutDeeper limit 0 ts))) := by
  have hts : Alternates .operand ts := by
    simpa using Alternates.of_derivation D hplain .done
  obtain ⟨hsame, hnone⟩ := value_parseTokens_of_le hle (notMem_events_withoutDeeper hlimit hts)
  refine ⟨hnone, ?_⟩
  obtain ⟨e, he, hpositive, hspans, hleaves⟩ := exists_expression_of_alternates hlimit hts
  obtain ⟨e', he', hpositive', hspans', hleaves'⟩ :=
    exists_expression_of_alternates hlimit (hts.withoutDeeper limit 0)
  rw [filterMap_withoutDeeper] at hleaves'
  rw [hsame, he, he', Option.some.injEq, ← hspans, ← hspans']
  constructor
  · intro heq
    rw [heq]
  · intro heq
    exact hpositive.eq_of_spans_eq hpositive' heq (hleaves.trans hleaves'.symm)

/-- The derivation of `from:a (from:b)`. -/
def Derivation.besideGroup : Derivation .disjunction
    [.field "from" "a" "from:a", .lparen, .field "from" "b" "from:b", .rparen] :=
  .first (.adjacent (.operand (.primary (.field "from" "a" "from:a")))
    (.primary (.group (.first (.operand (.primary (.field "from" "b" "from:b")))))) rfl)

/-- Under a limit of one, `(from:a (from:b))` has a group that is too deep. No filter comes after
it, so it makes no difference which group its parenthesis closes. -/
theorem Derivation.expression_withoutDeeper_last :
    (∀ warned : Int, .nestingIgnored warned ∉ (parseTokens 64 (withoutDeeper 1 0 [.lparen,
        .field "from" "a" "from:a", .lparen, .field "from" "b" "from:b", .rparen,
        .rparen])).events) ∧
      (parseTokens 1 [.lparen, .field "from" "a" "from:a", .lparen, .field "from" "b" "from:b",
          .rparen, .rparen]).value.expression
        = (parseTokens 64 (withoutDeeper 1 0 [.lparen, .field "from" "a" "from:a", .lparen,
            .field "from" "b" "from:b", .rparen, .rparen])).value.expression := by
  let D : Derivation .disjunction [.lparen, .field "from" "a" "from:a", .lparen,
      .field "from" "b" "from:b", .rparen, .rparen] :=
    .first (.operand (.primary (.group besideGroup)))
  obtain ⟨hnone, hiff⟩ :=
    D.expression_withoutDeeper_iff (by decide) 1 (by decide) 64 (by decide)
  exact ⟨hnone, hiff.2 (by decide)⟩

/-- In `(from:a (from:b)) OR from:c` a filter comes after the group that is too deep. Under a limit
of one the first closing parenthesis closes the outer group, the second one ends the query, and the
OR joins nothing. -/
theorem Derivation.expression_of_overdeep_group :
    Nonempty (Derivation .disjunction [.lparen, .field "from" "a" "from:a", .lparen,
        .field "from" "b" "from:b", .rparen, .rparen, .or, .field "from" "c" "from:c"]) ∧
      (∀ token ∈ [Token.lparen, .field "from" "a" "from:a", .lparen, .field "from" "b" "from:b",
        .rparen, .rparen, .or, .field "from" "c" "from:c"], token.isPlain = true) ∧
      (parseTokens 1 [.lparen, .field "from" "a" "from:a", .lparen, .field "from" "b" "from:b",
          .rparen, .rparen, .or, .field "from" "c" "from:c"]).value.expression
        = some (.and (.and (.leaf (.text .sender .eq "a")) (.leaf (.text .sender .eq "b")))
            (.leaf (.text .sender .eq "c"))) ∧
      (parseTokens 64 (withoutDeeper 1 0 [.lparen, .field "from" "a" "from:a", .lparen,
          .field "from" "b" "from:b", .rparen, .rparen, .or,
          .field "from" "c" "from:c"])).value.expression
        = some (.or (.and (.leaf (.text .sender .eq "a")) (.leaf (.text .sender .eq "b")))
            (.leaf (.text .sender .eq "c"))) := by
  have hderived : Nonempty (Derivation .disjunction [.lparen, .field "from" "a" "from:a", .lparen,
      .field "from" "b" "from:b", .rparen, .rparen, .or, .field "from" "c" "from:c"]) :=
    ⟨.or (.first (.operand (.primary (.group besideGroup))))
      (.operand (.primary (.field "from" "c" "from:c")))⟩
  exact ⟨hderived, by decide, by decide, by decide⟩

end MailSearch.Query
