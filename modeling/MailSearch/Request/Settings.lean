import MailSearch.Logged
import MailSearch.Query.Parser
import MailSearch.Text.Numeral

/-!
# Settings

Page sizes and the nesting of queries, as an operator may set them through environment variables. A
variable that is unset or blank leaves the default; one that is no positive integer leaves it too, with
a warning.
-/

namespace MailSearch

/-- A variable that is read from the environment. -/
inductive Setting where
  | defaultLimit
  | maxLimit
  | maxDepth
  deriving DecidableEq, Repr

/-- What the environment says about each variable. -/
abbrev Environment := Setting → Option String

namespace Setting

def name : Setting → String
  | defaultLimit => "SEARCH_DEFAULT_LIMIT"
  | maxLimit => "SEARCH_MAX_LIMIT"
  | maxDepth => "QUERY_MAX_DEPTH"

/-- The value of a variable that is not set. -/
def fallback : Setting → Int
  | defaultLimit => 10
  | maxLimit => 100
  | maxDepth => Query.defaultMaxDepth

/-- The largest value of a variable, if there is one. -/
def ceiling? : Setting → Option Int
  | defaultLimit => none
  | maxLimit => none
  | maxDepth => some Query.maxDepthCeiling

def all : List Setting := [defaultLimit, maxLimit, maxDepth]

def ofName? (name : String) : Option Setting :=
  all.find? (·.name == name)

/-- Lowers a value to the ceiling of a variable, with a warning. -/
def cap (setting : Setting) (value : Int) : Logged Int :=
  match setting.ceiling? with
  | none => pure value
  | some ceiling =>
    if value > ceiling then .note (.settingCapped setting.name value ceiling) ceiling
    else pure value

/-- The value that a text gives a variable. -/
def ofText (setting : Setting) (raw : String) : Logged Int :=
  if Text.isBlankText raw then pure setting.fallback
  else
    match Text.readInt? raw with
    | some value =>
      if value < 1 then .note (.invalidSetting setting.name raw setting.fallback) setting.fallback
      else setting.cap value
    | none => .note (.invalidSetting setting.name raw setting.fallback) setting.fallback

/-- The value of a variable in an environment. -/
def read (environment : Environment) (setting : Setting) : Logged Int :=
  match environment setting with
  | none => pure setting.fallback
  | some raw => setting.ofText raw

end Setting

/-- Page sizes and the nesting allowed in queries. -/
structure Settings where
  defaultLimit : Int := Setting.defaultLimit.fallback
  maxLimit : Int := Setting.maxLimit.fallback
  maxDepth : Int := Setting.maxDepth.fallback
  deriving DecidableEq, Repr

namespace Settings

def read (environment : Environment) : Logged Settings := do
  let defaultLimit ← Setting.read environment .defaultLimit
  let maxLimit ← Setting.read environment .maxLimit
  let maxDepth ← Setting.read environment .maxDepth
  return { defaultLimit, maxLimit, maxDepth }

end Settings

end MailSearch
