/-!
# Command-line arguments

How the words after a command are told apart into options and operands. Both may be mixed. An option
starts with a dash and has a second character; an option that takes a value has it after an equals sign
or in the next word, whatever that word is. The word `--` ends the options.
-/

namespace MailSearch.CommandLine

/-- Whether an option takes a value. -/
inductive OptionKind where
  | flag
  | value
  deriving DecidableEq, Repr

/-- The options of a command, each with its kind. -/
abbrev OptionTable := List (String × OptionKind)

/-- The words of a command, told apart: its options in order, with their values, and its operands. -/
structure Arguments where
  options : List (String × Option String) := []
  operands : List String := []
  deriving DecidableEq, Repr

/-- Whether a word is an option rather than an operand. -/
def isOption (word : String) : Bool :=
  match word.toList with
  | '-' :: _ :: _ => true
  | _ => false

/-- The name of an option, and the value that follows the first equals sign. -/
def splitOption (word : String) : String × Option String :=
  let cs := word.toList
  match cs.dropWhile (· != '=') with
  | [] => (word, none)
  | _ :: value => (String.ofList (cs.takeWhile (· != '=')), some (String.ofList value))

namespace Arguments

def addOption (name : String) (value : Option String) (arguments : Arguments) : Arguments :=
  { arguments with options := (name, value) :: arguments.options }

def addOperand (word : String) (arguments : Arguments) : Arguments :=
  { arguments with operands := word :: arguments.operands }

/-- Tells the words of a command apart. There is no reading if an option is unknown, if its value is
missing, or if a flag is given a value. -/
def read? (table : OptionTable) : List String → Option Arguments
  | [] => some {}
  | word :: rest =>
    if word = "--" then some { operands := rest }
    else if isOption word then
      let (name, attached) := splitOption word
      match table.lookup name, attached, rest with
      | some .flag, none, rest => (read? table rest).map (addOption name none)
      | some .value, some value, rest => (read? table rest).map (addOption name value)
      | some .value, none, value :: rest => (read? table rest).map (addOption name value)
      | _, _, _ => none
    else (read? table rest).map (addOperand word)
  termination_by words => words.length

def has (arguments : Arguments) (name : String) : Bool :=
  arguments.options.any (·.1 == name)

/-- All values given for an option, in order. -/
def values (arguments : Arguments) (name : String) : List String :=
  (arguments.options.filter (·.1 == name)).filterMap (·.2)

/-- The value of an option: the last one given. -/
def value? (arguments : Arguments) (name : String) : Option String :=
  (arguments.values name).getLast?

/-- Whichever of two flags was given last. -/
def lastOf? (arguments : Arguments) (yes no : String) : Option Bool :=
  ((arguments.options.filter fun (name, _) => name == yes || name == no).getLast?).map (·.1 == yes)

end Arguments

end MailSearch.CommandLine
