import ProviderRouting.Configuration.Settings
import ProviderRouting.Text.Numeral

/-!
# Layers of settings

Every layer is laid over the settings below it: what it sets takes their place, and what it does not
set stays.
-/

namespace ProviderRouting

namespace Settings

/-- Lay a settings file over the settings. -/
def withFile (path : String) (file : SettingsFile) (settings : Settings) : Settings where
  breaker := file.breaker.defaults.applyTo settings.breaker
  providerBreakers := file.breaker.providers
  selection :=
    { factor := file.selection.factor.getD settings.selection.factor
      degradedRate := file.selection.degradedRate.getD settings.selection.degradedRate
      degradedLatency := file.selection.degradedLatency.getD settings.selection.degradedLatency
      credentialed :=
        (file.selection.credentialed.map distinctNames).or settings.selection.credentialed }
  maxRetries := file.maxRetries.getD settings.maxRetries
  catalogPath := file.catalogPath.or settings.catalogPath
  catalogReload := file.catalogReload.getD settings.catalogReload
  storeEnabled := file.storeEnabled.getD settings.storeEnabled
  storeSync := file.storeSync.getD settings.storeSync
  storePath := file.storePath.getD settings.storePath
  metricsLog := file.metricsLog.getD settings.metricsLog
  metricsExport := file.metricsExport.getD settings.metricsExport
  filePath := some path
  source := .file

/-- What a text means where yes or no is asked for: only `0` and `false`, in any case, are no. -/
def isYes (text : String) : Bool := text ≠ "0" && text.toLower ≠ "false"

/-- Lay one variable over the settings.  A text that the variable cannot have counts as unset. -/
def withVariable (environment : Environment) (name : String) {α : Type}
    (read : String → Option α) (change : α → Settings → Settings) (settings : Settings) :
    Settings :=
  match (environment.get? name).bind read with
  | some value => { change value settings with source := .environment }
  | none => settings

/-- Lay the environment over the settings. -/
def withEnvironment (environment : Environment) (settings : Settings) : Settings :=
  settings
    |>.withVariable environment "GATEWAY_CATALOG_PATH" some
      (fun path settings => { settings with catalogPath := some path })
    |>.withVariable environment "GATEWAY_MAX_RETRIES" (Text.numeral? UInt64.size)
      (fun count settings => { settings with maxRetries := count })
    |>.withVariable environment "GATEWAY_BREAKER_FAILURE_THRESHOLD" (Text.numeral? UInt32.size)
      (fun count settings =>
        { settings with breaker := { settings.breaker with failures := count.toUInt32 } })
    |>.withVariable environment "GATEWAY_BREAKER_TIMEOUT_SECS" (Text.numeral? UInt64.size)
      (fun count settings =>
        { settings with breaker := { settings.breaker with timeoutSeconds := count.toUInt64 } })
    |>.withVariable environment "GATEWAY_STORE_ENABLED" (fun text => some (isYes text))
      (fun enabled settings => { settings with storeEnabled := enabled })
    |>.withVariable environment "GATEWAY_STORE_PATH" some
      (fun path settings => { settings with storePath := path })

end Settings

/-- What the command line sets. -/
structure SettingOverrides where
  /-- Where the catalog is. -/
  catalogPath : Option String
  /-- How many planned attempts a run examines. -/
  maxRetries : Option Nat
  /-- Consecutive failures that open a breaker. -/
  failures : Option UInt32
  /-- Whether breakers are shared. -/
  storeEnabled : Option Bool
deriving Inhabited

namespace SettingOverrides

/-- Whether anything is set. -/
def setsAny (overrides : SettingOverrides) : Bool :=
  overrides.catalogPath.isSome || overrides.maxRetries.isSome || overrides.failures.isSome
    || overrides.storeEnabled.isSome

/-- Lay the command line over the settings. -/
def applyTo (overrides : SettingOverrides) (settings : Settings) : Settings :=
  { settings with
    breaker := { settings.breaker with
      failures := overrides.failures.getD settings.breaker.failures }
    maxRetries := overrides.maxRetries.getD settings.maxRetries
    catalogPath := overrides.catalogPath.or settings.catalogPath
    storeEnabled := overrides.storeEnabled.getD settings.storeEnabled
    source := if overrides.setsAny then .commandLine else settings.source }

end SettingOverrides

end ProviderRouting
