import Turnstile.Settings.Options

set_option autoImplicit false

/-! # The command line

The arguments that a rule gives, and the values that settings have by them. When arguments are
refused, a rule says whether the program ends or it is told why. -/

namespace Turnstile

namespace SettingSources

/-! ## Arguments -/

/-- What is wrong with a mark when it is read as a pattern that may match twice: a letter or a sign
    that repeats what stands before it then has a meaning of its own. -/
def patternError? (mark : List Char) : Option SourceError :=
  let meaningful := "AabBdDfnNrsStuUvwWxZ".toList
  match mark with
  | [c] => if c.isAlpha && !meaningful.contains c then some (.meaninglessMark c) else none
  | mark =>
    if mark.getLast?.any ['*', '+', '?'].contains then some (.repeatedMark (mark.length + 3))
    else none

/-- Arguments as texts, with options in lower case up to a divider. What counts as false is an empty
    text, and nothing else but texts will do. -/
def loweredArguments (t : OptionTable) (items : List Json) : Except LoadError (List Json) :=
  match items.find? fun v => v.truthy && v.text?.isNone with
  | some v => .error (v.unfit .pattern)
  | none =>
    let texts := items.map fun v => v.text?.getD ""
    let options := texts.takeWhile (· ≠ dividerText)
    match if options = [] then none else patternError? t.mark with
    | some e => .error (.source e)
    | none => .ok ((options.map t.lowered ++ texts.drop options.length).map .text)

/-- What keeps a value from being an argument. Unless it counts as false it begins with something,
    and but for texts that is no part of the mark. -/
def argumentError? (mark : List Char) : Json → Option LoadError
  | .text _ => none
  | .object (_ :: _) => some (.source .nothingAtStart)
  | .list (.text s :: rest) =>
    let inMark : Bool := s = "" || (String.ofList mark).contains s
    if inMark then some ((Json.list (.text s :: rest)).unfit .key) else none
  | .list (v :: _) => some (v.unfit .textPart)
  | v => if v.truthy then some (v.unfit .index) else none

/-- Arguments as they are. -/
def plainArguments (t : OptionTable) (items : List Json) : Except LoadError (List Json) :=
  match (items.takeWhile (!isDivider ·)).findSome? (argumentError? t.mark) with
  | some e => .error e
  | none => .ok items

/-- The case of arguments is left as it is, which it is not where case does not count. -/
def keepsCase (sources : SettingSources) : Bool :=
  match sources.rule? "_case_sensitive" with
  | none | some (.bool false) => false
  | some _ => true

/-- The arguments of a command line. -/
def arguments (sources : SettingSources) (t : OptionTable) (v : Json) :
    Except LoadError (List Json) :=
  match v with
  | .list items => if sources.keepsCase then plainArguments t items else loweredArguments t items
  | .bool _ => .ok []
  | v =>
    let isZero := !v.truthy && v.contents?.isNone
    if isZero then .ok [] else .error (.source (.noArguments v.typeName))

/-- The error that arguments are refused with. -/
def argumentFailure (sources : SettingSources) (e : ArgumentError) : LoadError :=
  .source (if sources.holds "_cli_exit_on_error" true then .ended 2 else .badArguments e)

/-- The error that there are arguments which belong to no option. They must be texts to be shown. -/
def unknownFailure (sources : SettingSources) (unknown : List Json) : LoadError :=
  match unknown.zipIdx.find? (·.1.text?.isNone) with
  | some (v, place) => v.unfit (.textAt place)
  | none => sources.argumentFailure (.unknown (unknown.filterMap Json.text?))

/-- The values that options give to settings, in order; none when there is no command line. -/
def optionValues (sources : SettingSources) : Except LoadError (List (SettingField × Json)) := do
  match sources.rule? "_cli_parse_args" with
  | none => return []
  | some v =>
    let start ← sources.optionStart
    let mark ← sources.mark
    let errors := sources.optionRuleErrors
    if errors ≠ [] then throw (.invalid errors)
    let t ← sources.optionTable mark start
    match t.read (← sources.arguments t v) with
    | .error .help => throw (.source (.ended 0))
    | .error (.refused e) => throw (sources.argumentFailure e)
    | .ok r =>
      if r.unknown.isEmpty || sources.holds "_cli_ignore_unknown_args" then return r.values
      else throw (sources.unknownFailure r.unknown)

/-! ## Values -/

/-- The text of an argument that stands for `null`. A rule whose value is no text leaves none. -/
def nullArgument? (sources : SettingSources) : Option String :=
  let rules := ["_env_parse_none_str", "_cli_parse_none_str"].filterMap sources.rule?
  match rules.find? Json.truthy, sources.rule? "_cli_avoid_json" with
  | some v, _ => v.text?
  | none, some (.bool true) => some "None"
  | none, _ => some "null"

/-- The value of a setting that the last of its options has, where options have these values. -/
def optionValue? (sources : SettingSources) (values : List (SettingField × Json))
    (field : SettingField) : Option Json :=
  -- Names in lower case are not found where case counts.
  if sources.caseCounts && !sources.optionCaseCounts then none
  else
    match values.reverse.lookup field with
    | none | some .null => none
    | some (.text s) => some (valueOfText sources.nullArgument? s)
    | some (.list _) => some (valueOfText sources.nullArgument? "[]")
    | some v => some v

end SettingSources

end Turnstile
