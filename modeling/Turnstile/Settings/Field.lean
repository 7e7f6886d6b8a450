import Turnstile.Json.Basic
import Turnstile.Text.Numeral

set_option autoImplicit false

/-! # The settings one by one

Every setting has a default. Texts must be texts. The cap must be an integer of at least one, for
which a text or a number that stands for an integer will do. How settings are read is said by values
too, of which some must be truth values. -/

namespace Turnstile

/-- The settings of the service. -/
structure Settings where
  env : String := "dev"
  storeAddress : String := "redis://localhost:6379/0"
  logLevel : String := "INFO"
  cap : Int := 3
deriving DecidableEq, Repr

/-- The settings by name, in the order in which they are checked. -/
inductive SettingField where
  | env
  | storeAddress
  | logLevel
  | cap
deriving DecidableEq, Repr

namespace SettingField

def all : List SettingField := [.env, .storeAddress, .logLevel, .cap]

def name : SettingField → String
  | .env => "ENV"
  | .storeAddress => "REDIS_URL"
  | .logLevel => "LOG_LEVEL"
  | .cap => "SHARED_SECRET_MAX_ATTEMPTS_PER_MINUTE"

end SettingField

/-! ## What can be wrong with a value -/

/-- Why a value is no setting. -/
inductive SettingProblem where
  | notText
  | notInteger
  | notIntegerText
  | integerTooLong
  | fractional
  | notFinite
  | belowOne
  | notTruth
  | notTruthWord
  | notHyphenRule
  | unknownSetting
deriving DecidableEq, Repr

namespace SettingProblem

/-- The word for a problem. -/
def kind : SettingProblem → String
  | .notText => "string_type"
  | .notInteger => "int_type"
  | .notIntegerText => "int_parsing"
  | .integerTooLong => "int_parsing_size"
  | .fractional => "int_from_float"
  | .notFinite => "finite_number"
  | .belowOne => "greater_than_equal"
  | .notTruth => "bool_type"
  | .notTruthWord => "bool_parsing"
  | .notHyphenRule => "literal_error"
  | .unknownSetting => "extra_forbidden"

def message : SettingProblem → String
  | .notText => "Input should be a valid string"
  | .notInteger => "Input should be a valid integer"
  | .notIntegerText => "Input should be a valid integer, unable to parse string as an integer"
  | .integerTooLong => "Unable to parse input string as an integer, exceeded maximum size"
  | .fractional => "Input should be a valid integer, got a number with a fractional part"
  | .notFinite => "Input should be a finite number"
  | .belowOne => "Input should be greater than or equal to 1"
  | .notTruth => "Input should be a valid boolean"
  | .notTruthWord => "Input should be a valid boolean, unable to interpret input"
  | .notHyphenRule => "Input should be 'all' or 'no_enums'"
  | .unknownSetting => "Extra inputs are not permitted"

end SettingProblem

/-- A problem with the setting of a name. -/
structure SettingError where
  setting : String
  problem : SettingProblem
deriving DecidableEq, Repr

/-! ## Integers -/

/-- The integer that a text stands for. -/
def integerOfText (s : String) : Except SettingProblem Int :=
  match integerOfNumeral s with
  | .ok n => .ok n
  | .error .malformed => .error .notIntegerText
  | .error .tooLong => .error .integerTooLong

/-- The integer that a binary64 number is. -/
def integerOfDouble (x : Binary64) : Except SettingProblem Int :=
  match x.truncate? with
  | none => .error .notFinite
  | some n =>
    -- A number above or below its integer part has a fraction.
    if x.exceeds n || !x.reaches n then .error .fractional
    else if n.natAbs < 1 <<< 63 then .ok n
    else .error .integerTooLong

/-- The integer that a value stands for. -/
def integerOf : Json → Except SettingProblem Int
  | .int n => .ok n
  | .bool b => .ok (if b then 1 else 0)
  | .double x => integerOfDouble x
  | .text s => integerOfText s
  | _ => .error .notInteger

/-! ## Truth values -/

/-- The truth value that an integer is. -/
def truthOfInt (n : Int) : Except SettingProblem Bool :=
  if n = 0 then .ok false
  else if n = 1 then .ok true
  -- An integer counts as one when it has a place in 64 bits.
  else if -(1 <<< 63) ≤ n && n < 1 <<< 63 then .error .notTruthWord
  else .error .notTruth

/-- The truth value that a word is, in any case. -/
def truthOfWord (s : String) : Except SettingProblem Bool :=
  let word := s.toLower
  if ["1", "t", "true", "y", "yes", "on"].contains word then .ok true
  else if ["0", "f", "false", "n", "no", "off"].contains word then .ok false
  else .error .notTruthWord

/-- The truth value that a value stands for. -/
def truthOf : Json → Except SettingProblem Bool
  | .bool b => .ok b
  | .int n => truthOfInt n
  | .double x =>
    match integerOfDouble x with
    | .ok n => truthOfInt n
    | .error _ => .error .notTruth
  | .text s => truthOfWord s
  | _ => .error .notTruth

/-! ## Values of settings -/

/-- A cap is an integer of at least one. -/
def capOf (v : Json) : Except SettingProblem Int := do
  let n ← integerOf v
  if 1 ≤ n then return n else throw .belowOne

/-- A text is a text. -/
def textOf : Json → Except SettingProblem String
  | .text s => .ok s
  | _ => .error .notText

end Turnstile
