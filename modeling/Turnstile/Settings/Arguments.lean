import Turnstile.Settings.Field
import Turnstile.Text.Blank
import Turnstile.Text.Cut
import Turnstile.Text.Integer
import Turnstile.Text.LowerCase
import Turnstile.Text.Quoted

set_option autoImplicit false

/-! # Arguments

The arguments of a command line give values to options. An option is spelled with marks before its
name. Its value follows it after an equals sign or is the next argument, which then must not look
like an option; the value of an option of one mark and one character may also follow it directly.
Two hyphens by themselves divide: nothing after them is an option. One option has no value and asks
for help. -/

namespace Turnstile

/-- What an option is for. -/
inductive OptionUse where
  | help
  | set (field : SettingField)
deriving DecidableEq, Repr

/-- An option with all its spellings. -/
structure OptionSpec where
  use : OptionUse
  spellings : List String
deriving DecidableEq, Repr

/-- The options of a command line, and their mark. A text is marked when it begins with any
    character of the mark. -/
structure OptionTable where
  mark : List Char
  options : List OptionSpec

/-- Why arguments are refused. -/
inductive ArgumentError where
  | valueMissing (spellings : List String)
  | valueIgnored (spellings : List String) (value : String)
  | unknown (arguments : List String)
deriving DecidableEq, Repr

/-- An option as messages name it, by all its spellings. -/
def optionTitle (spellings : List String) : String := "argument " ++ "/".intercalate spellings

def ArgumentError.message : ArgumentError → String
  | .valueMissing spellings => optionTitle spellings ++ ": expected one argument"
  | .valueIgnored spellings value =>
    optionTitle spellings ++ ": ignored explicit argument " ++ quoted value
  | .unknown arguments => "unrecognized arguments: " ++ " ".intercalate arguments

/-- Why reading ends before its time. -/
inductive ArgumentStop where
  | help
  | refused (e : ArgumentError)
deriving DecidableEq, Repr

/-- What an argument is taken for. -/
inductive Argument where
  | option (o : OptionSpec) (spelling : String) (value : Option String)
  /-- Something that may be a value. -/
  | plain (v : Json)
  /-- Something that looks like an option and is none. -/
  | stray (s : String)
  | divider
deriving Repr

/-- The values that arguments give to settings, in order, and the arguments that belong to no
    option. -/
structure ArgumentValues where
  values : List (SettingField × Json) := []
  unknown : List Json := []

/-- The text of the divider. -/
def dividerText : String := "--"

def isDivider (v : Json) : Bool := v.text? = some dividerText

/-- A negative number in digits, with a fraction or not. A line feed at the end does not count. -/
def isNegativeNumber : List Char → Bool
  | '-' :: rest =>
    let digits := if rest.getLast? = some '\n' then rest.dropLast else rest
    let isDigit (c : Char) : Bool := (scriptDigit? c).isSome
    match cutAt '.' digits with
    | (whole, none) => whole ≠ [] && whole.all isDigit
    | (whole, some fraction) => whole.all isDigit && fraction ≠ [] && fraction.all isDigit
  | _ => false

namespace OptionTable

/-- The option that is spelled so. -/
def find? (t : OptionTable) (spelling : String) : Option OptionSpec :=
  t.options.find? (·.spellings.contains spelling)

/-- Some option looks like a negative number. -/
def hasNegativeNumber (t : OptionTable) : Bool :=
  t.options.any fun o => o.spellings.any (isNegativeNumber ·.toList)

/-! ## What arguments are taken for -/

/-- The option and the value that an equals sign divides. -/
def assigned? (t : OptionTable) (s : String) : Option Argument :=
  match cutAt '=' s.toList with
  | (before, some value) =>
    let spelling := String.ofList before
    (t.find? spelling).map fun o => .option o spelling (some (String.ofList value))
  | (_, none) => none

/-- The option of one mark and one character with the value that follows directly. -/
def joined? (t : OptionTable) (s : String) : Option Argument :=
  match s.toList with
  | mark :: c :: value =>
    let spelling := String.ofList [mark, c]
    if t.mark.contains c then none
    else (t.find? spelling).map fun o => .option o spelling (some (String.ofList value))
  | _ => none

/-- A marked text that is no option is yet no stray one when it is a mark alone, a negative number
    that could not be an option, or several words. -/
def mayBeValue (t : OptionTable) (s : String) : Bool :=
  s.length = 1 || (isNegativeNumber s.toList && !t.hasNegativeNumber) || s.toList.contains ' '

/-- What a text is taken for before a divider. -/
def classify (t : OptionTable) (s : String) : Argument :=
  if !(s.toList.head?.any t.mark.contains) then .plain (.text s)
  else
    match t.find? s with
    | some o => .option o s none
    | none =>
      match (t.assigned? s).or (t.joined? s) with
      | some argument => argument
      | none => if t.mayBeValue s then .plain (.text s) else .stray s

/-- What arguments are taken for. -/
def classifyAll (t : OptionTable) : List Json → List Argument
  | [] => []
  | v :: rest =>
    if isDivider v then .divider :: rest.map .plain
    else
      let argument := match v with
        | .text s => t.classify s
        | v => .plain v
      argument :: t.classifyAll rest

/-! ## Reading -/

/-- The end to which help comes with more characters behind its mark and its own: they are read as
    options under the same mark, and one that sets a setting wants a value. -/
def helpCluster (t : OptionTable) (help : OptionSpec) (mark : Char) (valueFollows : Bool) :
    List Char → ArgumentStop
  | [] => .help
  | c :: rest =>
    match t.find? (String.ofList [mark, c]) with
    | none => .refused (.valueIgnored help.spellings (String.ofList (c :: rest)))
    | some ⟨.help, _⟩ => t.helpCluster help mark valueFollows rest
    | some ⟨.set _, spellings⟩ =>
      if rest = [] && !valueFollows then .refused (.valueMissing spellings) else .help

/-- The end to which help comes with a value, which it cannot use. -/
def helpWith (t : OptionTable) (help : OptionSpec) (spelling value : String) (valueFollows : Bool) :
    ArgumentStop :=
  let ignored : ArgumentStop := .refused (.valueIgnored help.spellings value)
  match spelling.toList, value.toList with
  | mark :: c :: _, d :: rest =>
    if t.mark.contains c then ignored else t.helpCluster help mark valueFollows (d :: rest)
  | _, _ => ignored

/-- A value can be read from the next argument. -/
def valueFollows : List Argument → Bool
  | .plain _ :: _ => true
  | _ => false

/-- The text that a value written behind its option stands for: a divider stands for an empty
    list. -/
def writtenValue (text : String) : Json := .text (if text = dividerText then "[]" else text)

/-- The values of options, and what belongs to none. -/
def assign (t : OptionTable) : List Argument → Except ArgumentStop ArgumentValues
  | [] => .ok {}
  | .option ⟨.set field, _⟩ _ (some text) :: rest =>
    withValue field (writtenValue text) (t.assign rest)
  | .option ⟨.set field, _⟩ _ none :: .plain v :: rest => withValue field v (t.assign rest)
  | .option ⟨.set _, spellings⟩ _ none :: _ => .error (.refused (.valueMissing spellings))
  | .option ⟨.help, spellings⟩ spelling (some text) :: rest =>
    .error (t.helpWith ⟨.help, spellings⟩ spelling text (valueFollows rest))
  | .option ⟨.help, _⟩ _ none :: _ => .error .help
  | .plain v :: rest => leftOver v (t.assign rest)
  | .stray s :: rest => leftOver (.text s) (t.assign rest)
  | .divider :: rest => leftOver (.text dividerText) (t.assign rest)
where
  withValue (field : SettingField) (v : Json) (read : Except ArgumentStop ArgumentValues) :
      Except ArgumentStop ArgumentValues :=
    read.map fun r => { r with values := (field, v) :: r.values }
  leftOver (v : Json) (read : Except ArgumentStop ArgumentValues) :
      Except ArgumentStop ArgumentValues :=
    read.map fun r => { r with unknown := v :: r.unknown }

/-- The values that arguments give to settings, and the arguments that belong to no option. -/
def read (t : OptionTable) (arguments : List Json) : Except ArgumentStop ArgumentValues :=
  t.assign (t.classifyAll arguments)

/-! ## Case -/

/-- An argument with its option in lower case, if there is one that is spelled so, and without what
    comes after a line feed behind the option. -/
def lowered (t : OptionTable) (s : String) : String :=
  let rest := s.toList.drop t.mark.length
  let name := rest.takeWhile fun c => c ≠ '=' && !isBlankOrSeparator c
  if t.mark.isPrefixOf s.toList && name ≠ [] then
    let option := String.ofList (t.mark ++ name)
    let lower := lowerCase option
    let value := (rest.drop name.length).takeWhile (· ≠ '\n')
    (if (t.find? lower).isSome then lower else option) ++ String.ofList value
  else s

end OptionTable

end Turnstile
