import Turnstile.Settings.Arguments

set_option autoImplicit false

/-! # Why there are no settings

Either values are no settings, each for a reason of its own, or one thing is wrong with the sources
themselves. Much of the latter is a value of a type that cannot do what it is needed for. -/

namespace Turnstile

/-- What a value is needed for. -/
inductive ValueUse where
  /-- To be two values. -/
  | pair
  /-- To give one value after the other. -/
  | sequence
  /-- To have a length. -/
  | length
  /-- To hold something or not. -/
  | search
  /-- To have a first item. -/
  | index
  /-- To be a key in a table. -/
  | key
  /-- To stand inside a text. -/
  | textPart
  /-- To be called. -/
  | call
  /-- To match a pattern. -/
  | pattern
  /-- To be a path of a file. -/
  | path
  /-- To be lessened by an integer. -/
  | difference
  /-- To be the text at some place of a list. -/
  | textAt (place : Nat)
  /-- To have an attribute. -/
  | attribute (name : String)
deriving DecidableEq, Repr

/-- What is wrong with the sources of settings. -/
inductive SourceError where
  /-- A value of some type has no such use. -/
  | unfit (type : String) (use : ValueUse)
  /-- A value is given under a name that is not free. -/
  | takenName (name : String)
  | tooFewSources (count : Nat)
  | tooManySources
  /-- Options have no mark. -/
  | noMark
  /-- The mark of options, when it is read as a pattern, repeats a repetition. -/
  | repeatedMark (place : Nat)
  /-- The mark of options, when it is read as a pattern, means nothing. -/
  | meaninglessMark (c : Char)
  /-- Options cannot begin with this. -/
  | badOptionStart (start : String)
  /-- An object stands in the place of an argument and has nothing at its start. -/
  | nothingAtStart
  /-- A value of some type stands in the place of the arguments. -/
  | noArguments (type : String)
  /-- An option is spelled as others are already. -/
  | conflict (spellings taken : List String)
  | badArguments (e : ArgumentError)
  /-- A setting cannot be looked up in the environment. -/
  | unreadable (field : SettingField)
  /-- Reading arguments ends the program. -/
  | ended (status : Nat)
deriving DecidableEq, Repr

/-- Why there are no settings. -/
inductive LoadError where
  | invalid (errors : List SettingError)
  | source (e : SourceError)
deriving DecidableEq, Repr

/-- A value has no such use. -/
def Json.unfit (v : Json) (use : ValueUse) : LoadError := .source (.unfit v.typeName use)

/-- The word for the kind of error that an unfit value is. -/
def ValueUse.kind : ValueUse → String
  | .attribute _ => "AttributeError"
  | _ => "TypeError"

/-- The message that a value of some type has no such use. -/
def ValueUse.message (type : String) : ValueUse → String
  | .pair => "cannot unpack non-iterable " ++ type ++ " object"
  | .sequence => "'" ++ type ++ "' object is not iterable"
  | .length => "object of type '" ++ type ++ "' has no len()"
  | .search => "argument of type '" ++ type ++ "' is not iterable"
  | .index => "'" ++ type ++ "' object is not subscriptable"
  | .key => "unhashable type: '" ++ type ++ "'"
  | .textPart => "'in <string>' requires string as left operand, not " ++ type
  | .call => "'" ++ type ++ "' object is not callable"
  | .pattern => "expected string or bytes-like object, got '" ++ type ++ "'"
  | .path => "expected str, bytes or os.PathLike object, not " ++ type
  | .difference => "unsupported operand type(s) for -: '" ++ type ++ "' and 'int'"
  | .textAt place =>
    "sequence item " ++ toString place ++ ": expected str instance, " ++ type ++ " found"
  | .attribute name => "'" ++ type ++ "' object has no attribute '" ++ name ++ "'"

namespace SourceError

/-- The word for the kind of error. -/
def kind : SourceError → String
  | .unfit _ use => use.kind
  | .takenName _ => "TypeError"
  | .tooFewSources _ | .tooManySources => "ValueError"
  | .noMark => "IndexError"
  | .nothingAtStart => "KeyError"
  | .repeatedMark _ | .meaninglessMark _ => "error"
  | .conflict _ _ => "ArgumentError"
  | .badOptionStart _ | .noArguments _ | .badArguments _ | .unreadable _ => "SettingsError"
  | .ended _ => "SystemExit"

def message : SourceError → String
  | .unfit type use => use.message type
  | .takenName name =>
    "BaseSettings.__init__() got multiple values for argument '" ++ name ++ "'"
  | .tooFewSources count =>
    "not enough values to unpack (expected 2, got " ++ toString count ++ ")"
  | .tooManySources => "too many values to unpack (expected 2)"
  | .noMark => "string index out of range"
  | .nothingAtStart => "0"
  | .repeatedMark place => "multiple repeat at position " ++ toString place
  | .meaninglessMark c => "bad escape \\" ++ c.toString ++ " at position 2"
  | .badOptionStart start => "CLI settings source prefix is invalid: " ++ start
  | .noArguments type =>
    "cli_parse_args must be a list or tuple of strings, received <class '" ++ type ++ "'>"
  | .conflict spellings taken =>
    let noun := if taken.length = 1 then "string: " else "strings: "
    optionTitle spellings ++ ": conflicting option " ++ noun ++ ", ".intercalate taken
  | .badArguments e => "error parsing CLI: " ++ e.message
  | .unreadable field =>
    "error getting value for field \"" ++ field.name ++ "\" from source \"EnvSettingsSource\""
  | .ended status => toString status

end SourceError

end Turnstile
