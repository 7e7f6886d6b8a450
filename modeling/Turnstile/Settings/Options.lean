import Turnstile.Settings.LoadError
import Turnstile.Settings.Rules
import Turnstile.Text.Identifier

set_option autoImplicit false

/-! # Options

Where there is a command line every setting has an option, and rules say how options are spelled:
what marks them, what their names begin with, whether case counts in them, whether hyphens stand in
the place of underscores, and which further names they have. -/

namespace Turnstile

namespace SettingSources

/-! ## Rules -/

/-- The mark of options. -/
def mark (sources : SettingSources) : Except LoadError (List Char) :=
  match sources.rule? "_cli_flag_prefix_char" with
  | some (.text s) => if s = "" then .error (.source .noMark) else .ok s.toList
  | some v => if v.contents?.isNone then .error (v.unfit .search) else .ok ['-']
  | none => .ok ['-']

/-- The names of options can begin with this: identifiers with points between them. -/
def isOptionStart (s : String) : Bool :=
  let cs := s.toList
  cs.head? ≠ some '.' && cs.getLast? ≠ some '.' && isIdentifier (cs.filter (· ≠ '.'))

/-- What the names of options begin with. -/
def optionStart (sources : SettingSources) : Except LoadError String :=
  match sources.rule? "_cli_prefix" with
  | none => .ok ""
  | some (.text s) =>
    if s = "" then .ok ""
    else if isOptionStart s then .ok (s ++ ".")
    else .error (.source (.badOptionStart s))
  | some v =>
    if v.truthy then .error (v.unfit (.attribute "startswith"))
    else if v.contents?.isNone then .error (v.unfit .length)
    else .ok ""

/-- Case counts in the names of options. -/
def optionCaseCounts (sources : SettingSources) : Bool :=
  match sources.rule? "_case_sensitive" with
  | some v => (truthOf v).toOption.getD false
  | none => false

/-- Hyphens stand in the place of underscores. -/
def hyphenates (sources : SettingSources) : Bool :=
  match sources.rule? "_cli_kebab_case" with
  | none | some (.bool false) | some (.int 0) => false
  | some (.double x) => !x.isZero
  | some _ => true

/-- What is wrong with a rule that must have a truth value. -/
def truthErrors (sources : SettingSources) (rule setting : String) : List SettingError :=
  match (sources.rule? rule).map truthOf with
  | some (.error p) => [⟨setting, p⟩]
  | _ => []

/-- What is wrong with the rule about hyphens, which has a truth value or is one of two words. -/
def hyphenErrors (sources : SettingSources) : List SettingError :=
  match sources.ruleText? "_cli_kebab_case" with
  | some "all" | some "no_enums" => []
  | _ => match sources.truthErrors "_cli_kebab_case" "kebab_case.bool" with
    | [] => []
    | errors => errors ++ [⟨"kebab_case.literal['all','no_enums']", .notHyphenRule⟩]

/-- What is wrong with rules about options. -/
def optionRuleErrors (sources : SettingSources) : List SettingError :=
  let startErrors := match (sources.rule? "_cli_prefix").map textOf with
    | some (.error p) => [⟨"arg_prefix", p⟩]
    | _ => []
  startErrors ++ sources.truthErrors "_case_sensitive" "case_sensitive" ++
    sources.truthErrors "_cli_hide_none_type" "hide_none_type" ++ sources.hyphenErrors

/-! ## Names -/

/-- The name that a setting has as an option by itself. -/
def optionName (sources : SettingSources) (start : String) (field : SettingField) : String :=
  let name := if sources.optionCaseCounts then field.name else lowerCase field.name
  let hyphenated (c : Char) : Char := if c = '_' then '-' else c
  if sources.hyphenates then (start ++ name).map hyphenated else start ++ name

/-- Further names. -/
def furtherNames (v : Json) : Except LoadError (List String) :=
  match v, v.contents? with
  | .text s, _ => .ok [s]
  | _, some names => names.mapM fun
    | .text s => .ok s
    | v => .error (v.unfit .length)
  | _, none => .error (v.unfit .sequence)

/-- The names of a setting as an option, none of which another setting has taken: its own, and those
    that stand under one of them among the further names. -/
def optionNames (sources : SettingSources) (start : String) (taken : List String)
    (field : SettingField) : Except LoadError (List String) :=
  let own := [sources.optionName start field].filter (!taken.contains ·)
  match sources.rule? "_cli_shortcuts" with
  | none => .ok own
  | some (.object further) =>
    let step (names : List String) (p : String × Json) : Except LoadError (List String) := do
      if names.contains p.1 then
        return names ++ (← furtherNames p.2).filter (!taken.contains ·)
      else return names
    further.foldlM step own
  | some v => if v.truthy then .error (v.unfit (.attribute "items")) else .ok own

/-- A name as it is spelled behind marks, of which a name of one character has one. -/
def spelling (mark : List Char) (name : String) : String :=
  String.ofList (if name.length = 1 then mark else mark ++ mark) ++ name

/-- The option for help. A hyphen marks it where a hyphen is among the marks. -/
def helpOption (mark : List Char) : OptionSpec :=
  let helpMark := if mark.contains '-' then ['-'] else mark.take 1
  ⟨.help, ["h", "help"].map (spelling helpMark)⟩

/-- The option for help, and one for each setting that has a name left. -/
def optionTable (sources : SettingSources) (mark : List Char) (start : String) :
    Except LoadError OptionTable := do
  let step (acc : List OptionSpec × List String) (field : SettingField) :
      Except LoadError (List OptionSpec × List String) := do
    let names ← sources.optionNames start acc.2 field
    let spellings := names.map (spelling mark)
    let used := spellings.filter fun s => acc.1.any (·.spellings.contains s)
    if names = [] then return acc
    else if used ≠ [] then throw (.source (.conflict spellings used))
    else return (acc.1 ++ [⟨.set field, spellings⟩], acc.2 ++ names)
  let (options, _) ← SettingField.all.foldlM step ([helpOption mark], [])
  return { mark, options }

end SettingSources

end Turnstile
