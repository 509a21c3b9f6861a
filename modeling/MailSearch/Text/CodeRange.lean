/-!
# Character classes as code ranges

A class of characters beyond ASCII is data: a list of inclusive ranges of code points. This module
has the membership test that every such table shares.
-/

namespace MailSearch.Text

/-- First and last code point of a run of characters, both included. -/
abbrev CodeRange := Nat × Nat

def inRanges (table : List CodeRange) (c : Char) : Bool :=
  table.any fun range => range.1 ≤ c.toNat && c.toNat ≤ range.2

/-- Membership in a table is membership in one of its ranges. -/
theorem inRanges_iff {table : List CodeRange} {c : Char} :
    inRanges table c = true ↔ ∃ range ∈ table, range.1 ≤ c.toNat ∧ c.toNat ≤ range.2 := by
  simp [inRanges]

end MailSearch.Text
