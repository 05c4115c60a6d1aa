import ProviderRouting.Configuration.Environment
import ProviderRouting.Configuration.File
import ProviderRouting.Engine.Basic

/-!
# Settings

The settings of a gateway are what is left when all layers that may set something have been laid
over the standard values: the settings file, the environment, and the command line.  They say from
which layer the last change came, and they are valid if every value is in its range.
-/

namespace ProviderRouting

/-- The layer from which a value came. -/
inductive SettingSource where
  /-- The command line. -/
  | commandLine
  /-- A variable of the environment. -/
  | environment
  /-- The settings file. -/
  | file
  /-- The standard values. -/
  | standard
deriving DecidableEq, Inhabited

namespace SettingSource

/-- The name of a layer in messages. -/
def name : SettingSource → String
  | commandLine => "CLI"
  | environment => "environment"
  | file => "config file"
  | standard => "default"

/-- The name of a layer in documents. -/
def code : SettingSource → String
  | commandLine => "Cli"
  | environment => "Env"
  | file => "File"
  | standard => "Default"

/-- All layers. -/
def all : List SettingSource := [commandLine, environment, file, standard]

/-- The layer with a given name in documents. -/
def ofCode? (code : String) : Option SettingSource := all.find? (·.code = code)

/-- A layer, by its name in documents. -/
def decode : Document.Decoder SettingSource := Document.toAlternative ofCode?

end SettingSource

/-- The settings of a gateway. -/
structure Settings where
  /-- The thresholds of providers without their own. -/
  breaker : Thresholds
  /-- What is set for single providers, over the thresholds of all. -/
  providerBreakers : Table ThresholdFields
  /-- How providers are selected. -/
  selection : Selection
  /-- How many planned attempts a run examines. -/
  maxRetries : Nat
  /-- Where the catalog is, if there is one. -/
  catalogPath : Option String
  /-- Seconds between readings of the catalog. -/
  catalogReload : Nat
  /-- Whether breakers are shared. -/
  storeEnabled : Bool
  /-- Seconds between looks at what others share. -/
  storeSync : Nat
  /-- The folder in which breakers are shared. -/
  storePath : String
  /-- Seconds between summaries of the metrics. -/
  metricsLog : Nat
  /-- Where the metrics are exported to. -/
  metricsExport : String
  /-- The settings file that was read, if one was. -/
  filePath : Option String
  /-- The layer from which the last change came. -/
  source : SettingSource
deriving Inhabited

/-- Why settings are not valid. -/
inductive SettingFault where
  /-- The thresholds of all providers are not usable. -/
  | breaker (fault : ThresholdFault)
  /-- The thresholds of one provider are not usable. -/
  | providerBreaker (provider : String) (fault : ThresholdFault)
  /-- The smoothing factor is not above zero and at most one. -/
  | factor (value : Float)
  /-- The success rate below which a provider is degraded is not from zero to one. -/
  | degradedRate (value : Float)
  /-- No planned attempt would be examined. -/
  | noRetries

/-- What is wrong with settings, in words. -/
def SettingFault.message : SettingFault → String
  | breaker fault => "breaker: " ++ fault.message
  | providerBreaker provider fault => "breaker.providers." ++ provider ++ ": " ++ fault.message
  | factor value => "selector.ema_alpha must be in (0, 1], got " ++ NumberStyle.plain.write value
  | degradedRate value =>
    "selector.degraded_success_rate must be in [0, 1], got " ++ NumberStyle.plain.write value
  | noRetries => "failover.max_retries must be at least 1"

namespace Settings

/-- The standard values in an environment. -/
def standard (environment : Environment) : Settings where
  breaker := .standard
  providerBreakers := .empty
  selection := .standard
  maxRetries := 3
  catalogPath := none
  catalogReload := 300
  storeEnabled := false
  storeSync := 5
  storePath := Path.join environment.dataFolder "breaker-state"
  metricsLog := 60
  metricsExport := Path.join environment.dataFolder "metrics.prom"
  filePath := none
  source := .standard

/-- The thresholds of a provider. -/
def breakerFor (settings : Settings) (provider : String) : Thresholds :=
  match settings.providerBreakers.get? provider with
  | some fields => fields.applyTo settings.breaker
  | none => settings.breaker

/-- The fault in the thresholds of a provider of its own. -/
def providerFault (settings : Settings) (provider : String) : Option SettingFault :=
  match (settings.breakerFor provider).validate with
  | .ok () => none
  | .error fault => some (.providerBreaker provider fault)

/-- The fault outside the thresholds. -/
def otherFault (settings : Settings) : Option SettingFault :=
  let factor := settings.selection.factor
  let rate := settings.selection.degradedRate
  if ¬(factor > 0.0 ∧ factor ≤ 1.0) then some (.factor factor)
  else if ¬(0.0 ≤ rate ∧ rate ≤ 1.0) then some (.degradedRate rate)
  else if settings.maxRetries = 0 then some .noRetries
  else none

/-- Check the settings; the first fault counts, providers being taken in name order. -/
def validate (settings : Settings) : Except SettingFault Unit :=
  match settings.breaker.validate with
  | .error fault => .error (.breaker fault)
  | .ok () =>
    match settings.providerBreakers.names.findSome? settings.providerFault with
    | some fault => .error fault
    | none =>
      match settings.otherFault with
      | some fault => .error fault
      | none => .ok ()

/-- What an engine with these settings is built from. -/
def engineSettings (settings : Settings) : EngineSettings where
  thresholds := settings.breaker
  overrides := settings.providerBreakers.names.map fun provider =>
    (provider, settings.breakerFor provider)
  selection := settings.selection
  maxRetries := settings.maxRetries
  registry := .empty

end Settings

end ProviderRouting
