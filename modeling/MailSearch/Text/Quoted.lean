import MailSearch.Text.Printable

/-!
# Quoted text in messages

Messages show the texts they speak of in quotes, on one line. Single quotes are the rule; a text that
has a single quote and no double quote in it is shown in double quotes instead. What is not printable is
shown by its code.

Main definition: `quoted : String → String`.
-/

namespace MailSearch.Text

def singleQuote : Char := '\x27'

/-- The digits of a number in base sixteen, in lower case, with zeros in front up to the width. -/
def hex (width n : Nat) : List Char :=
  let digits := Nat.toDigits 16 n
  List.replicate (width - digits.length) '0' ++ digits

/-- A character shown by its code, in two, four or eight digits. -/
def codeEscape (c : Char) : List Char :=
  let code := c.toNat
  if code < 0x100 then '\\' :: 'x' :: hex 2 code
  else if code < 0x10000 then '\\' :: 'u' :: hex 4 code
  else '\\' :: 'U' :: hex 8 code

/-- How one character of a quoted text is shown, given the quote around it. -/
def quotedChar (quote c : Char) : List Char :=
  if c = '\\' ∨ c = quote then ['\\', c]
  else if c = '\n' then ['\\', 'n']
  else if c = '\r' then ['\\', 'r']
  else if c = '\t' then ['\\', 't']
  else if isPrintable c then [c]
  else codeEscape c

/-- The quote that is put around a text. -/
def quoteFor (cs : List Char) : Char :=
  if cs.contains singleQuote && !cs.contains '"' then '"' else singleQuote

/-- A text as messages show it. -/
def quoted (text : String) : String :=
  let cs := text.toList
  let quote := quoteFor cs
  String.ofList (quote :: cs.flatMap (quotedChar quote) ++ [quote])

end MailSearch.Text
