import MailSearch.Json.Printer
import Mathlib.Data.List.Basic

/-!
# Strings in documents

A document is in ASCII only, so most characters are printed as escapes of several characters, one of two
characters or one or two of six. `Json.readChar?` reads a character from the start of a printed string,
and from what a character is printed as it reads that character (`Json.readChar?_escapeChar`). Hence a
string is told from its text, and the closing quote from the quotes inside
(`Json.renderString_append_inj`).
-/

namespace MailSearch

namespace Text

/-! ### Digits in base sixteen -/

/-- One more digit is written on the right. -/
theorem hex_succ {width : Nat} (h : 0 < width) (n : Nat) :
    hex (width + 1) n = hex width (n / 16) ++ [Nat.digitChar (n % 16)] := by
  simp only [hex]
  by_cases hn : n < 16
  · -- a single digit stands after a zero for the digits in front of it
    have hzero : n / 16 = 0 := Nat.div_eq_of_lt hn
    have hwidth : width = (width - 1) + 1 := by omega
    rw [Nat.toDigits_of_lt_base hn, hzero, Nat.toDigits_zero, Nat.mod_eq_of_lt hn,
      List.length_singleton, List.length_singleton, Nat.add_sub_cancel,
      ← List.replicate_succ', ← hwidth]
  · rw [Nat.toDigits_of_base_le (by omega) (Nat.not_lt.1 hn), List.length_append,
      List.length_singleton, Nat.add_sub_add_right, List.append_assoc]

/-- A number below the fourth power of sixteen has four digits. -/
theorem hex_four {n : Nat} (h : n < 0x10000) :
    hex 4 n = [Nat.digitChar (n / 16 / 16 / 16), Nat.digitChar (n / 16 / 16 % 16),
      Nat.digitChar (n / 16 % 16), Nat.digitChar (n % 16)] := by
  have hfirst : hex 1 (n / 16 / 16 / 16) = [Nat.digitChar (n / 16 / 16 / 16)] := by
    rw [hex, Nat.toDigits_of_lt_base (by omega)]
    rfl
  rw [hex_succ (by omega), hex_succ (by omega), hex_succ (by omega), hfirst]
  rfl

/-- The value of a digit. -/
def hexDigit (c : Char) : Nat :=
  (List.range 16).findIdx (Nat.digitChar · == c)

theorem hexDigit_digitChar : ∀ d < 16, hexDigit (Nat.digitChar d) = d := by
  decide

end Text

namespace Json

open Text

/-! ### Characters -/

/-- Reads the four digits of an escape. -/
def readUnit? : List Char → Option (Nat × List Char)
  | a :: b :: c :: d :: rest =>
    some (((hexDigit a * 16 + hexDigit b) * 16 + hexDigit c) * 16 + hexDigit d, rest)
  | _ => none

/-- Reads what follows the start of an escape with digits. A unit that is the first one of two is
completed by a second escape. -/
def readUnicode? (cs : List Char) : Option (Char × List Char) :=
  (readUnit? cs).bind fun (unit, rest) =>
    if 0xD800 ≤ unit ∧ unit < 0xDC00 then
      match rest with
      | '\\' :: 'u' :: rest =>
        (readUnit? rest).map fun (second, rest) =>
          (Char.ofNat (0x10000 + ((unit - 0xD800) * 0x400 + (second - 0xDC00))), rest)
      | _ => none
    else some (Char.ofNat unit, rest)

/-- The escapes of a backslash and one other character. -/
def shortEscapes : List (Char × Char) :=
  [('"', '"'), ('\\', '\\'), ('n', '\n'), ('r', '\r'), ('t', '\t'), ('b', '\x08'), ('f', '\x0c')]

/-- Reads one character of a printed string. -/
def readChar? : List Char → Option (Char × List Char)
  | [] => none
  | '\\' :: 'u' :: rest => readUnicode? rest
  | '\\' :: c :: rest => (shortEscapes.lookup c).map (·, rest)
  | c :: rest => some (c, rest)

theorem readUnit?_hex {unit : Nat} (h : unit < 0x10000) (rest : List Char) :
    readUnit? (hex 4 unit ++ rest) = some (unit, rest) := by
  have hvalue : ((unit / 16 / 16 / 16 * 16 + unit / 16 / 16 % 16) * 16 + unit / 16 % 16) * 16
      + unit % 16 = unit := by
    omega
  rw [hex_four h]
  show some (_, rest) = _
  rw [hexDigit_digitChar _ (by omega), hexDigit_digitChar _ (by omega),
    hexDigit_digitChar _ (by omega), hexDigit_digitChar _ (by omega), hvalue]

theorem readUnicode?_hex_append {unit : Nat} (h : unit < 0x10000)
    (hwhole : ¬ (0xD800 ≤ unit ∧ unit < 0xDC00)) (rest : List Char) :
    readUnicode? (hex 4 unit ++ rest) = some (Char.ofNat unit, rest) := by
  rw [readUnicode?, readUnit?_hex h]
  simp only [Option.bind_some, if_neg hwhole]

theorem readUnicode?_hex_append_unitEscape {high low : Nat} (hhigh : 0xD800 ≤ high ∧ high < 0xDC00)
    (hlow : low < 0x10000) (rest : List Char) :
    readUnicode? (hex 4 high ++ (unitEscape low ++ rest))
      = some (Char.ofNat (0x10000 + ((high - 0xD800) * 0x400 + (low - 0xDC00))), rest) := by
  rw [readUnicode?, readUnit?_hex (by omega)]
  simp only [Option.bind_some, if_pos hhigh, unitEscape, List.cons_append, readUnit?_hex hlow,
    Option.map_some]

theorem readChar?_unicodeEscape (c : Char) (rest : List Char) :
    readChar? (unicodeEscape c ++ rest) = some (c, rest) := by
  have hvalid : c.toNat < 0xD800 ∨ 0xDFFF < c.toNat ∧ c.toNat < 0x110000 := c.valid
  have hunit (unit : Nat) (rest : List Char) :
      readChar? (unitEscape unit ++ rest) = readUnicode? (hex 4 unit ++ rest) := by
    rw [unitEscape, List.cons_append, List.cons_append, readChar?]
  simp only [unicodeEscape]
  by_cases hplane : c.toNat < 0x10000
  · rw [if_pos hplane, hunit, readUnicode?_hex_append hplane (by omega), Char.ofNat_toNat]
  · -- two units, of which the second has the last ten bits of the offset
    rw [if_neg hplane, List.append_assoc, hunit,
      readUnicode?_hex_append_unitEscape (by omega) (by omega)]
    have hcode : 0x10000 + ((0xD800 + (c.toNat - 0x10000) / 0x400 - 0xD800) * 0x400
        + (0xDC00 + (c.toNat - 0x10000) % 0x400 - 0xDC00)) = c.toNat := by
      omega
    rw [hcode, Char.ofNat_toNat]

/-- **A character is read from what it is printed as**, whatever comes after it. -/
theorem readChar?_escapeChar (c : Char) (rest : List Char) :
    readChar? (escapeChar c ++ rest) = some (c, rest) := by
  unfold escapeChar
  split_ifs with hquote hbackslash hnewline hreturn htab hbackspace hfeed hplain
  · rw [hquote]; rfl
  · rw [hbackslash]; rfl
  · rw [hnewline]; rfl
  · rw [hreturn]; rfl
  · rw [htab]; rfl
  · rw [Char.toNat_inj.1 (hbackspace.trans (by decide : 0x08 = '\x08'.toNat))]; rfl
  · rw [Char.toNat_inj.1 (hfeed.trans (by decide : 0x0C = '\x0c'.toNat))]; rfl
  · -- a character that stands for itself is no backslash
    rw [List.singleton_append, readChar?]
    · exact fun _ h => absurd h hbackslash
    · exact fun _ _ h => absurd h hbackslash
  · exact readChar?_unicodeEscape c rest

theorem escapeChar_append_inj {c d : Char} {s t : List Char}
    (h : escapeChar c ++ s = escapeChar d ++ t) : c = d ∧ s = t := by
  have hread := congrArg readChar? h
  rw [readChar?_escapeChar, readChar?_escapeChar] at hread
  exact Prod.mk.inj (Option.some.inj hread)

/-- No character is printed as something that starts with a quote. -/
theorem escapeChar_append_ne (c : Char) (s t : List Char) : escapeChar c ++ s ≠ '"' :: t := by
  intro h
  -- otherwise the character read is the quote, which is escaped
  have hread := congrArg readChar? h
  rw [readChar?_escapeChar] at hread
  obtain ⟨rfl, -⟩ := Prod.mk.inj (Option.some.inj hread)
  cases h

/-! ### Strings -/

/-- The first closing quote is where the string ends. Induction on the string. -/
theorem flatMap_escapeChar_append_inj {cs ds s t : List Char}
    (h : cs.flatMap escapeChar ++ '"' :: s = ds.flatMap escapeChar ++ '"' :: t) :
    cs = ds ∧ s = t := by
  induction cs generalizing ds with
  | nil =>
    cases ds with
    | nil => exact ⟨rfl, (List.cons.inj h).2⟩
    | cons d ds =>
      rw [List.flatMap_cons, List.append_assoc] at h
      exact absurd h.symm (escapeChar_append_ne d _ s)
  | cons c cs ih =>
    rw [List.flatMap_cons, List.append_assoc] at h
    cases ds with
    | nil => exact absurd h (escapeChar_append_ne c _ t)
    | cons d ds =>
      rw [List.flatMap_cons, List.append_assoc] at h
      obtain ⟨rfl, hrest⟩ := escapeChar_append_inj h
      obtain ⟨rfl, rfl⟩ := ih hrest
      exact ⟨rfl, rfl⟩

/-- **A string is told from its text**, whatever comes after it. -/
theorem renderString_append_inj {a b : String} {s t : List Char}
    (h : (renderString a).toList ++ s = (renderString b).toList ++ t) : a = b ∧ s = t := by
  simp only [renderString, String.toList_ofList, List.cons_append, List.append_assoc,
    List.nil_append, List.cons.injEq, true_and] at h
  obtain ⟨hlist, rfl⟩ := flatMap_escapeChar_append_inj h
  exact ⟨String.toList_inj.1 hlist, rfl⟩

end Json

end MailSearch
