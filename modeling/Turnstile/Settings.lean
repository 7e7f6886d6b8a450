import Turnstile.Limiter
import Turnstile.Settings.Source

set_option autoImplicit false

/-! # Settings

What the environment says about the service, and whatever stands above it. The settings come from
their sources, or it is told why there are none: what is wrong with the sources, or else everything
that is wrong with the values. -/

namespace Turnstile

/-- Put a value for a setting, if there is one, in its place. -/
def Settings.assign (s : Settings) (field : SettingField) (value : Option Json) :
    Except SettingError Settings :=
  match value with
  | none => .ok s
  | some v =>
    let assigned := match field with
      | .env => (textOf v).map fun t => { s with env := t }
      | .storeAddress => (textOf v).map fun t => { s with storeAddress := t }
      | .logLevel => (textOf v).map fun t => { s with logLevel := t }
      | .cap => (capOf v).map fun n => { s with cap := n }
    assigned.mapError (⟨field.name, ·⟩)

/-- The settings by their values, or everything that is wrong with these: first what is wrong with
    the settings in their order, then names of none. -/
def Settings.ofValues (value? : SettingField → Option Json) (unknown : List String) :
    Except LoadError Settings :=
  let step (acc : Settings × List SettingError) (field : SettingField) :=
    match acc.1.assign field (value? field) with
    | .ok s => (s, acc.2)
    | .error e => (acc.1, acc.2 ++ [e])
  let (s, errors) := SettingField.all.foldl step ({}, [])
  match errors ++ unknown.map (⟨·, .unknownSetting⟩) with
  | [] => .ok s
  | errors => .error (.invalid errors)

/-- The one name under which nothing can be given: it is that of the settings themselves. -/
def Settings.ownName : String := "__pydantic_self__"

/-- The settings from their sources. Where something stands in for these, none of them is read. -/
def Settings.load (sources : SettingSources) : Except LoadError Settings := do
  if (sources.given.lookup ownName).isSome then throw (.source (.takenName ownName))
  match sources.rule? "_build_sources" with
  | some v =>
    SettingSources.checkStandIn v
    return {}
  | none =>
    let options ← sources.readOptions
    ofValues (sources.value? options) sources.unknown

/-- The configuration of a limiter by the settings. -/
def Settings.limiter (s : Settings) : LimiterConfig := { cap := s.cap }

end Turnstile
