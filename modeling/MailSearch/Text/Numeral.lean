import MailSearch.Text.Blank

/-!
# Integers in text

Settings and command-line numbers are written by people, so the reader is generous: blanks around the
number, a sign, decimal digits of any script, leading zeros, and single underscores between digits.
A numeral of more than `maxDigits` digits is refused.

Main definition: `readInt? : String → Option Int`.
-/

namespace MailSearch.Text

/-- The code points of the digit zero in every script; the nine other digits follow each of them. -/
def digitZeros : List Nat :=
  [0x30, 0x660, 0x6F0, 0x7C0, 0x966, 0x9E6, 0xA66, 0xAE6, 0xB66, 0xBE6, 0xC66, 0xCE6, 0xD66, 0xDE6,
   0xE50, 0xED0, 0xF20, 0x1040, 0x1090, 0x17E0, 0x1810, 0x1946, 0x19D0, 0x1A80, 0x1A90, 0x1B50,
   0x1BB0, 0x1C40, 0x1C50, 0xA620, 0xA8D0, 0xA900, 0xA9D0, 0xA9F0, 0xAA50, 0xABF0, 0xFF10, 0x104A0,
   0x10D30, 0x11066, 0x110F0, 0x11136, 0x111D0, 0x112F0, 0x11450, 0x114D0, 0x11650, 0x116C0, 0x11730,
   0x118E0, 0x11950, 0x11C50, 0x11D50, 0x11DA0, 0x16A60, 0x16AC0, 0x16B50, 0x1D7CE, 0x1D7D8, 0x1D7E2,
   0x1D7EC, 0x1D7F6, 0x1E140, 0x1E2F0, 0x1E950, 0x1FBF0]

/-- The value of a decimal digit of any script. -/
def digit? (c : Char) : Option Nat :=
  digitZeros.findSome? fun first =>
    if first ≤ c.toNat ∧ c.toNat < first + 10 then some (c.toNat - first) else none

theorem digit?_lt_ten {c : Char} {d : Nat} (h : digit? c = some d) : d < 10 := by
  obtain ⟨first, _, hz⟩ := List.exists_of_findSome?_eq_some h
  split at hz
  · simp only [Option.some.injEq] at hz; omega
  · simp at hz

/-- What may follow a digit: further digits, each with at most one underscore before it. -/
def digitsAfter? : List Char → Option (List Nat)
  | [] => some []
  | '_' :: c :: rest => (digit? c).bind fun d => (digitsAfter? rest).map (d :: ·)
  | c :: rest => (digit? c).bind fun d => (digitsAfter? rest).map (d :: ·)

/-- The digits of an unsigned numeral, the most significant first. -/
def digits? : List Char → Option (List Nat)
  | [] => none
  | c :: rest => (digit? c).bind fun d => (digitsAfter? rest).map (d :: ·)

/-- The longest numeral that is read, in digits. -/
def maxDigits : Nat := 4300

/-- The value of an unsigned numeral, unless it is too long. -/
def readNat? (cs : List Char) : Option Nat :=
  (digits? cs).bind fun ds =>
    if ds.length ≤ maxDigits then some (ds.foldl (fun n d => 10 * n + d) 0) else none

/-- A blank that may stand around a number: the information separators may not. -/
def isMargin (c : Char) : Bool :=
  isBlank c && !(0x1C ≤ c.toNat && c.toNat ≤ 0x1F)

/-- Reads an integer: margins, an optional sign right before the digits, and the digits. -/
def readInt? (text : String) : Option Int :=
  match trim isMargin text.toList with
  | '-' :: rest => (readNat? rest).map fun n => -(n : Int)
  | '+' :: rest => (readNat? rest).map fun n => (n : Int)
  | rest => (readNat? rest).map fun n => (n : Int)

/-- An integer is printed as its digits, with a minus sign in front if it is negative. -/
theorem toList_toString (n : Int) :
    (toString n).toList = (if n < 0 then ['-'] else []) ++ Nat.toDigits 10 n.natAbs := by
  cases n with
  | ofNat n => exact Nat.toList_repr
  | negSucc n =>
    show ("-" ++ Nat.repr (n + 1)).toList = _
    rw [String.toList_append, Nat.toList_repr, if_pos (Int.negSucc_lt_zero n)]
    rfl

end MailSearch.Text
