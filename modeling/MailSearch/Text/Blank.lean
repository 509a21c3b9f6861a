import MailSearch.Text.CodeRange

/-!
# Blank characters

What separates the words of a query: the ASCII blanks with the four information separators, and the
spaces and line breaks of the other scripts. Zero-width characters are not blank.
-/

namespace MailSearch.Text

/-- The blank characters, as inclusive code ranges in increasing order. -/
def blankRanges : List CodeRange :=
  [(0x09, 0x0D), (0x1C, 0x20), (0x85, 0x85), (0xA0, 0xA0), (0x1680, 0x1680), (0x2000, 0x200A),
   (0x2028, 0x2029), (0x202F, 0x202F), (0x205F, 0x205F), (0x3000, 0x3000)]

/-- Whether a character separates words. -/
def isBlank (c : Char) : Bool :=
  inRanges blankRanges c

/-- The blanks are few enough to look each of them up. -/
theorem forall_of_isBlank {p : Char → Prop}
    (h : ∀ range ∈ blankRanges, ∀ n < range.2 - range.1 + 1, p (Char.ofNat (range.1 + n)))
    {c : Char} (hc : isBlank c = true) : p c := by
  obtain ⟨range, hmem, hlow, hhigh⟩ := inRanges_iff.1 hc
  have hcode := h range hmem (c.toNat - range.1) (by omega)
  rwa [Nat.add_sub_of_le hlow, Char.ofNat_toNat] at hcode

/-- A text with nothing but blanks in it, the empty text included. -/
def isBlankText (text : String) : Bool :=
  text.toList.all isBlank

/-- The characters without the run of the given class at their end. -/
def trimEnd (p : Char → Bool) (cs : List Char) : List Char :=
  (cs.reverse.dropWhile p).reverse

/-- The characters without the run of the given class at either end. -/
def trim (p : Char → Bool) (cs : List Char) : List Char :=
  ((cs.dropWhile p).reverse.dropWhile p).reverse

end MailSearch.Text
