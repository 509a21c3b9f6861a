/-!
# JSON values

The values that filters are built from and that results are shown as. Integers are unbounded and
apart from decimals, because a time stamp takes the one and refuses the other; the members of an
object keep their order.
-/

namespace MailSearch

/-- A JSON value. `decimal m k` is the number `m / 10 ^ k`, written with a fraction. -/
inductive Json where
  | null
  | bool (value : Bool)
  | int (value : Int)
  | decimal (mantissa : Int) (places : Nat)
  | str (value : String)
  | arr (items : List Json)
  | obj (members : List (String × Json))
  deriving Inhabited

namespace Json

/-- Whether a value counts as given: null, false, zero and whatever is empty do not. -/
def isPopulated : Json → Bool
  | null => false
  | bool value => value
  | int value => value != 0
  | decimal mantissa _ => mantissa != 0
  | str value => !value.isEmpty
  | arr items => !items.isEmpty
  | obj members => !members.isEmpty

/-- What messages call the type of a value. -/
def typeName : Json → String
  | null => "NoneType"
  | bool _ => "bool"
  | int _ => "int"
  | decimal _ _ => "float"
  | str _ => "str"
  | arr _ => "list"
  | obj _ => "dict"

def ofText? : Option String → Json
  | none => null
  | some text => str text

/-- The member of an object under a key, the first if there are several. -/
def member? (key : String) : Json → Option Json
  | obj members => members.lookup key
  | _ => none

end Json

end MailSearch
