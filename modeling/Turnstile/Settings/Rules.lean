import Turnstile.Json.Basic
import Turnstile.Text.LowerCase

set_option autoImplicit false

/-! # Rules of reading

What is given outright for settings also says, under names that begin with an underscore, how
variables are read, what the command line is and how that is read. Such a rule is by default what it
is when its value is `null`. -/

namespace Turnstile

/-- Where settings come from: variables of the environment, and values given outright. -/
structure SettingSources where
  environment : List (String × String) := []
  given : List (String × Json) := []

/-- A text as a value, where one text may stand for `null`. -/
def valueOfText (nullText : Option String) (text : String) : Json :=
  if nullText = some text then .null else .text text

namespace SettingSources

/-- The names of the rules. Those of them that are about nested settings, or about how help is
    shown, have no bearing on settings like these. -/
def ruleNames : List String :=
  ["_case_sensitive", "_env_prefix", "_env_prefix_target", "_env_ignore_empty",
    "_env_parse_none_str", "_nested_model_default_partial_update", "_env_file",
    "_env_file_encoding", "_env_file_depth", "_env_nested_delimiter", "_env_nested_max_split",
    "_env_parse_enums", "_cli_prog_name", "_cli_parse_args", "_cli_settings_source",
    "_cli_parse_none_str", "_cli_hide_none_type", "_cli_avoid_json", "_cli_enforce_required",
    "_cli_use_class_docs_for_groups", "_cli_exit_on_error", "_cli_prefix", "_cli_flag_prefix_char",
    "_cli_implicit_flags", "_cli_ignore_unknown_args", "_cli_kebab_case", "_cli_shortcuts",
    "_cli_show_env_vars", "_secrets_dir", "_build_sources"]

/-- The value of a rule, unless that is `null`. -/
def rule? (sources : SettingSources) (name : String) : Option Json :=
  match sources.given.lookup name with
  | none | some .null => none
  | some v => some v

/-- A rule holds, by its value or by default. -/
def holds (sources : SettingSources) (name : String) (default : Bool := false) : Bool :=
  ((sources.rule? name).map Json.truthy).getD default

/-- The text of a rule, if it has one that is not empty. -/
def ruleText? (sources : SettingSources) (name : String) : Option String :=
  ((sources.rule? name).bind Json.text?).filter (· ≠ "")

/-- Case counts in names. -/
def caseCounts (sources : SettingSources) : Bool := sources.holds "_case_sensitive"

end SettingSources

end Turnstile
