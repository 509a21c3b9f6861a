import MailSearch.Json.Basic
import MailSearch.Text.Quoted

/-!
# JSON text

Documents are printed over several lines, two blanks to a level, and in ASCII only: every other
character is written as one or two UTF-16 escapes.

Main definition: `Json.render`.
-/

namespace MailSearch.Json

open Text

/-- An escape with four digits. -/
def unitEscape (unit : Nat) : List Char :=
  '\\' :: 'u' :: hex 4 unit

/-- A character as UTF-16 units, each escaped: two of them for a character beyond the first plane. -/
def unicodeEscape (c : Char) : List Char :=
  let code := c.toNat
  if code < 0x10000 then unitEscape code
  else
    let offset := code - 0x10000
    unitEscape (0xD800 + offset / 0x400) ++ unitEscape (0xDC00 + offset % 0x400)

/-- A character inside a printed string. -/
def escapeChar (c : Char) : List Char :=
  if c = '"' then ['\\', '"']
  else if c = '\\' then ['\\', '\\']
  else if c = '\n' then ['\\', 'n']
  else if c = '\r' then ['\\', 'r']
  else if c = '\t' then ['\\', 't']
  else if c.toNat = 0x08 then ['\\', 'b']
  else if c.toNat = 0x0C then ['\\', 'f']
  else if 0x20 ≤ c.toNat ∧ c.toNat < 0x7F then [c]
  else unicodeEscape c

/-- A printed string, with its quotes. -/
def renderString (text : String) : String :=
  String.ofList ('"' :: text.toList.flatMap escapeChar ++ ['"'])

/-- A number with the given count of decimal places. -/
def renderDecimal (mantissa : Int) (places : Nat) : String :=
  let digits := Nat.toDigits 10 mantissa.natAbs
  let padded := List.replicate (places + 1 - digits.length) '0' ++ digits
  let cut := padded.length - places
  (if mantissa < 0 then "-" else "") ++
    String.ofList (padded.take cut ++ '.' :: padded.drop cut)

def newline (level : Nat) : String :=
  "\n" ++ String.ofList (List.replicate (2 * level) ' ')

/-- Printed items between brackets, one to a line; nothing at all stands between the brackets of an
empty sequence. -/
def block (level : Nat) (opening closing : String) (items : List String) : String :=
  if items.isEmpty then opening ++ closing
  else
    opening ++ newline (level + 1) ++ (("," ++ newline (level + 1)).intercalate items) ++
      newline level ++ closing

mutual

/-- A value as it is printed at a level of nesting. -/
def renderAt (level : Nat) : Json → String
  | null => "null"
  | bool true => "true"
  | bool false => "false"
  | int value => toString value
  | decimal mantissa places => renderDecimal mantissa places
  | str text => renderString text
  | arr items => block level "[" "]" (renderItems (level + 1) items)
  | obj members => block level "\x7b" "\x7d" (renderMembers (level + 1) members)

/-- The items of an array, each as it is printed at a level of nesting. -/
def renderItems (level : Nat) : List Json → List String
  | [] => []
  | item :: rest => renderAt level item :: renderItems level rest

/-- The members of an object, each as it is printed at a level of nesting. -/
def renderMembers (level : Nat) : List (String × Json) → List String
  | [] => []
  | (key, value) :: rest =>
    (renderString key ++ ": " ++ renderAt level value) :: renderMembers level rest

end

def render (document : Json) : String :=
  renderAt 0 document

end MailSearch.Json
