/-!
# Text on a terminal

The terminal takes what it is given as markup: a name in square brackets is a style tag, and a backslash
before an opening bracket keeps the bracket as text. Text that comes from a query is protected before it
is shown, but only where it would be taken for a tag, together with all backslashes in front. A bracket
that starts no tag is not protected, so the backslash right before it still acts on it and is not shown.

Main definition: `Markup.shown`.
-/

namespace MailSearch.CommandLine.Markup

/-- A character that the name in a tag may start with. -/
def isTagStart (c : Char) : Bool :=
  c.isLower || c == '#' || c == '/' || c == '@'

/-- Whether a closing bracket comes before any opening one. -/
def closes (cs : List Char) : Bool :=
  match cs.dropWhile fun c => c != '[' && c != ']' with
  | ']' :: _ => true
  | _ => false

/-- Whether the text after an opening bracket makes a tag of it. -/
def startsTag : List Char → Bool
  | [] => false
  | c :: rest => isTagStart c && closes rest

/-- Drops the backslash right before each opening bracket that starts no tag. -/
def dropEscapes : List Char → List Char
  | [] => []
  | '\\' :: '[' :: rest =>
    if startsTag rest then '\\' :: '[' :: dropEscapes rest else '[' :: dropEscapes rest
  | c :: rest => c :: dropEscapes rest

/-- Doubles a single backslash at the end, which would otherwise act on whatever is shown next. -/
def guardEnd (cs : List Char) : List Char :=
  match cs.reverse with
  | '\\' :: '\\' :: _ => cs
  | '\\' :: _ => cs ++ ['\\']
  | _ => cs

/-- A text as the terminal shows it. -/
def shown (text : String) : String :=
  String.ofList (dropEscapes (guardEnd text.toList))

/-- A text without backslashes is shown as it is. -/
theorem dropEscapes_of_notMem {cs : List Char} (h : '\\' ∉ cs) : dropEscapes cs = cs := by
  induction cs with
  | nil => rfl
  | cons c rest ih =>
    have hc : c ≠ '\\' := fun hc => h (hc ▸ List.mem_cons_self)
    rw [dropEscapes, ih fun hrest => h (List.mem_cons_of_mem c hrest)]
    intro rest' hc' _
    exact absurd hc' hc

end MailSearch.CommandLine.Markup
