import BuildTelemetry.Settings.Policy
import BuildTelemetry.Catalog.Naming
import BuildTelemetry.Metric.Instrument
import BuildTelemetry.Decimal.Notation

/-!
# Settings

A valid configuration with all that follows from it.

* `Settings.of`: validates a configuration.
* `Settings.allows`: whether a metric is exposed.
* `ActiveSettings`: the settings in force, which can be replaced.
-/

namespace BuildTelemetry

/-- Why a configuration was not accepted. -/
inductive ConfigError where
  /-- The text is no configuration. -/
  | malformed
  /-- The file cannot be read as text. -/
  | unreadable
  | invalidPeriod
  | invalidQuantile (quantile : Float)
  | invalidPattern (pattern : String)
deriving Repr

/-- The message of an error, where it has one of its own. -/
def ConfigError.message? : ConfigError → Option String
  | invalidPeriod => some "collecting_metrics_period_in_seconds must be greater than zero"
  | invalidQuantile q => some ("quantile " ++ Decimal.plain q ++ " is outside [0, 1]")
  | _ => none

/-- The namespace where none is given. -/
def fallbackNameSpace : String := "default"

/-- The namespace in force: the configured one, or else the one of the environment, without the
white space around it. A blank one does not count. -/
def resolveNameSpace (configured environment : Option String) : String :=
  match (configured <|> environment).map Text.trimBlanks with
  | some nameSpace => if nameSpace.isEmpty then fallbackNameSpace else nameSpace
  | none => fallbackNameSpace

/-- A valid configuration, its namespace and its policy. -/
structure Settings where
  config : Config
  nameSpace : String
  policy : Policy
deriving Repr

namespace Settings

/-- Validates a configuration: first the period, then the quantiles, then the patterns. -/
def of (environment : Option String) (config : Config) : Except ConfigError Settings :=
  if config.period = 0 then .error .invalidPeriod
  else match firstOutOfRange? config.quantiles with
    | some q => .error (.invalidQuantile q)
    | none => match Policy.compile config.rules with
      | .error pattern => .error (.invalidPattern pattern)
      | .ok policy => .ok ⟨config, resolveNameSpace config.nameSpace environment, policy⟩

/-- What was validated of the settings of a configuration. -/
theorem of_eq_ok {environment : Option String} {config : Config} {s : Settings}
    (h : of environment config = .ok s) :
    s.config = config ∧ config.period ≠ 0 ∧ firstOutOfRange? config.quantiles = none := by
  unfold of at h
  split at h
  · cases h
  next hperiod =>
  split at h
  · cases h
  next hquantiles =>
  split at h
  · cases h
  cases h
  exact ⟨rfl, hperiod, hquantiles⟩

/-- The settings of an operator who configures nothing. -/
def initial (environment : Option String) : Settings :=
  ⟨.initial, resolveNameSpace none environment, .allowAll⟩

/-- Whether a metric is exposed, by its qualified name. -/
def allows (s : Settings) (kind : MetricKind) : Bool :=
  s.policy.allowsMetric (kind.qualifiedName s.nameSpace)

end Settings

/-- The settings in force: those stored last, or the initial ones. -/
structure ActiveSettings where
  environment : Option String
  stored : Option Settings
deriving Repr

namespace ActiveSettings

/-- Nothing has been stored. -/
def empty (environment : Option String) : ActiveSettings := ⟨environment, none⟩

/-- The settings in force. -/
def load (a : ActiveSettings) : Settings := a.stored.getD (.initial a.environment)

def store (a : ActiveSettings) (s : Settings) : ActiveSettings := { a with stored := some s }

/-- Puts a configuration into force if it is valid. -/
def apply (a : ActiveSettings) (config : Config) : Except ConfigError ActiveSettings :=
  (Settings.of a.environment config).map a.store

end ActiveSettings

end BuildTelemetry
