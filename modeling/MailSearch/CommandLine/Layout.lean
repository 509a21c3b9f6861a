import MailSearch.Text.Blank
import MailSearch.Text.CellWidth

/-!
# Laying out text

The terminal shows text in lines of a given width, which is counted in cells. A line break starts a new
line; a line that is too long is broken between its words, and the blanks behind the last word of a line
may stick out. A word that is wider than a line is folded, or cut off with an ellipsis. A tab goes on to
the next stop, and a few controls are not shown.

Main definitions: `Layout.lay`, `Layout.console`.
-/

namespace MailSearch.CommandLine.Layout

open Text

/-- The width of the terminal, in cells. -/
def consoleWidth : Nat := 200

/-- What becomes of a word that is wider than a line. -/
inductive Overflow where
  /-- It goes on on the next line. -/
  | fold
  /-- It is cut off, with an ellipsis. -/
  | ellipsis
  deriving DecidableEq, Repr

/-! ### Breaking a line -/

/-- The words of a line, each with the blanks after it. Blanks in front of the first word belong to
it. -/
def words (cs : List Char) : List (List Char) :=
  match (cs.dropWhile isBlank).splitBy fun c next => !isBlank c || isBlank next with
  | [] => [cs]
  | first :: rest => (cs.takeWhile isBlank ++ first) :: rest

/-- Lines in the making: the ones that are full, and the one that text is still added to. -/
structure Filling where
  full : List (List Char) := []
  line : List Char := []
  deriving DecidableEq, Repr

namespace Filling

def lines (filling : Filling) : List (List Char) :=
  filling.full ++ [filling.line]

/-- The lines that are full when the next one is started. A line with nothing on it is not kept. -/
def closed (filling : Filling) : List (List Char) :=
  if filling.line.isEmpty then filling.full else filling.lines

/-- Adds a character, on the next line if there is no room for it. -/
def addChar (width : Nat) (filling : Filling) (c : Char) : Filling :=
  if cells (filling.line ++ [c]) ≤ width then { filling with line := filling.line ++ [c] }
  else { full := filling.closed, line := [c] }

/-- Adds a word, on the next line if there is no room for it. The blanks after a word need no room. -/
def addWord (overflow : Overflow) (width : Nat) (filling : Filling) (word : List Char) : Filling :=
  if cells (filling.line ++ trimEnd isBlank word) ≤ width then
    { filling with line := filling.line ++ word }
  else if overflow = .fold ∧ width < cells (trimEnd isBlank word) then
    word.foldl (addChar width) { full := filling.closed }
  else
    { full := filling.closed, line := word }

end Filling

/-- Breaks a line between its words. -/
def breakLine (overflow : Overflow) (width : Nat) (cs : List Char) : List (List Char) :=
  ((words cs).foldl (Filling.addWord overflow width) {}).lines

/-! ### Fitting a line to the width -/

/-- A line with blanks after it up to the width. -/
def pad (width : Nat) (line : List Char) : List Char :=
  line ++ List.replicate (width - cells line) ' '

/-- The characters at the front of a line that there is room for. -/
def takeCells (width : Nat) : List Char → List Char
  | [] => []
  | c :: rest => if cellWidth c ≤ width then c :: takeCells (width - cellWidth c) rest else []

/-- Drops blanks at the end of a line that has more characters than the width. -/
def dropExcess (width : Nat) (line : List Char) : List Char :=
  line.take (max width (trimEnd isBlank line).length)

/-- Cuts a line off at the width. -/
def clip (overflow : Overflow) (width : Nat) (line : List Char) : List Char :=
  if cells line ≤ width then line
  else
    match overflow with
    | .fold => pad width (takeCells width line)
    | .ellipsis => pad (width - 1) (takeCells (width - 1) line) ++ ['…']

/-! ### Laying out a text -/

/-- Whether a character is shown at all: bell, backspace, vertical tab, form feed and carriage return
are not. -/
def isShown (c : Char) : Bool :=
  !(['\x07', '\x08', '\x0B', '\x0C', '\r'].contains c)

/-- Puts blanks in the place of tabs, up to the next stop. There is a stop at every eighth cell. -/
def expandTabs (position : Nat) : List Char → List Char
  | [] => []
  | '\t' :: rest =>
    let stop := (position / 8 + 1) * 8
    List.replicate (stop - position) ' ' ++ expandTabs stop rest
  | c :: rest => c :: expandTabs (position + cellWidth c) rest

/-- The lines in which a text is shown. -/
def lay (overflow : Overflow) (width : Nat) (text : String) : List (List Char) :=
  ((text.toList.filter isShown).splitOn '\n').flatMap fun line =>
    (breakLine overflow width (expandTabs 0 line)).map (clip overflow width ∘ dropExcess width)

/-- The lines of a text that is printed for people to read. -/
def console (text : String) : List (List Char) :=
  lay .fold consoleWidth text

/-- Lines as a text. -/
def unlines (lines : List (List Char)) : String :=
  String.ofList (lines.flatMap (· ++ ['\n']))

end MailSearch.CommandLine.Layout
