import Turnstile.Settings.CommandLine

set_option autoImplicit false

/-! # Sources of settings

A value for a setting comes from an argument of a command line, from what is given outright under
the setting's name, or from a variable of the environment, and the first of these that has one
counts. Files and directories are sources too, of which there are none here, but they must be named
by paths. -/

namespace Turnstile

namespace SettingSources

/-! ## Variables -/

/-- What the names of variables begin with; it may be only for other names than those of settings.
    -/
def nameStart? (sources : SettingSources) : Option Json :=
  let applies : Bool := match sources.rule? "_env_prefix_target" with
    | none => true
    | some (.text target) => ["variable", "all"].contains target
    | some _ => false
  if applies then sources.rule? "_env_prefix" else none

/-- A variable of some name and text counts for a setting. -/
def counts (sources : SettingSources) (field : SettingField) (name text : String) : Bool :=
  let expected := ((sources.nameStart?.bind Json.text?).getD "") ++ field.name
  let named := if sources.caseCounts then name = expected else lowerCase name = lowerCase expected
  named && !(text = "" && sources.holds "_env_ignore_empty")

/-- The value that a variable has for a setting. Of several that count the last one does. -/
def environmentValue? (sources : SettingSources) (field : SettingField) : Option Json :=
  let counting := sources.environment.filter fun p => sources.counts field p.1 p.2
  let nullText := (sources.rule? "_env_parse_none_str").bind Json.text?
  counting.getLast?.map fun p => valueOfText nullText p.2

/-! ## Values given outright -/

/-- A name is that of a setting; case does not count. -/
def isNameOf (field : SettingField) (name : String) : Bool := lowerCase name = lowerCase field.name

/-- The value given outright for a setting. The setting's name as it stands goes before its
    variants, and of these the first one counts. -/
def givenValue? (sources : SettingSources) (field : SettingField) : Option Json :=
  match sources.given.lookup field.name with
  | some v => some v
  | none => (sources.given.find? fun p => isNameOf field p.1).map (·.2)

/-- The names of values given outright that are neither those of settings nor of rules. -/
def unknown (sources : SettingSources) : List String :=
  (sources.given.map (·.1)).filter fun name =>
    !ruleNames.contains name && !SettingField.all.any (isNameOf · name)

/-! ## What sources must be -/

/-- A rule's value, if it has one, is a path or several paths. -/
def checkPaths (sources : SettingSources) (rule : String) : Except LoadError Unit :=
  match sources.rule? rule with
  | none | some (.text _) => .ok ()
  | some v =>
    match v.contents? with
    | none => .error (v.unfit .sequence)
    | some paths =>
      match paths.find? (·.text?.isNone) with
      | some path => .error (path.unfit .path)
      | none => .ok ()

/-- The environment can be a source: its nesting has a number for its limit, and names can begin
    with what they are to begin with. -/
def checkEnvironment (sources : SettingSources) : Except LoadError Unit := do
  match sources.rule? "_env_nested_max_split" with
  | some v => if v.truthy && v.contents?.isSome then throw (v.unfit .difference)
  | none => pure ()
  match sources.rule? "_env_prefix" with
  | some v => if v.contents?.isNone then throw (v.unfit .length)
  | none => pure ()

/-- Variables can be looked up: what their names begin with is a text. -/
def checkNameStart (sources : SettingSources) : Except LoadError Unit :=
  match sources.nameStart?.map Json.text? with
  | some none => .error (.source (.unreadable .env))
  | _ => .ok ()

/-- Sources that stand for all others are two values, of which the first has no sources, as no value
    here can be one. -/
def checkStandIn (v : Json) : Except LoadError Unit :=
  match v.contents? with
  | none => .error (v.unfit .pair)
  | some [instead, _] =>
    if !instead.truthy then .ok ()
    else
      match instead.contents? with
      | none => .error (instead.unfit .sequence)
      | some (source :: _) => .error (source.unfit .call)
      | some [] => .ok ()
  | some items =>
    .error (.source (if items.length < 2 then .tooFewSources items.length else .tooManySources))

/-! ## All sources -/

/-- The value of a setting, if a source has one, where options have these values. -/
def value? (sources : SettingSources) (options : List (SettingField × Json))
    (field : SettingField) : Option Json :=
  ((sources.optionValue? options field).or (sources.givenValue? field)).or
    (sources.environmentValue? field)

/-- What options give, once every source has turned out to be one that can be read. -/
def readOptions (sources : SettingSources) : Except LoadError (List (SettingField × Json)) := do
  sources.checkEnvironment
  sources.checkPaths "_env_file"
  let options ← sources.optionValues
  sources.checkNameStart
  sources.checkPaths "_secrets_dir"
  return options

end SettingSources

end Turnstile
