import ProviderRouting.Breaker.Thresholds
import ProviderRouting.Document.Decoding
import ProviderRouting.Table

/-!
# Settings files

A settings file has a section for every part of the gateway.  Every section and every field in it
may be missing: what is missing is not set by the file.
-/

namespace ProviderRouting

open Document

/-- Thresholds of which some may not be set. -/
structure ThresholdFields where
  /-- Consecutive failures that open the breaker. -/
  failures : Option UInt32
  /-- Consecutive successful probes that close it. -/
  successes : Option UInt32
  /-- Seconds to stay open. -/
  timeoutSeconds : Option UInt64
  /-- Seconds that an outcome stays in the window. -/
  windowSeconds : Option UInt64
  /-- The failing fraction above which the breaker opens. -/
  rate : Option Float
  /-- Outcomes the window must hold before its failing fraction counts. -/
  minimumSamples : Option UInt32
deriving Inhabited

namespace ThresholdFields

/-- The thresholds with those that are set in place of the old ones. -/
def applyTo (fields : ThresholdFields) (thresholds : Thresholds) : Thresholds where
  failures := fields.failures.getD thresholds.failures
  successes := fields.successes.getD thresholds.successes
  timeoutSeconds := fields.timeoutSeconds.getD thresholds.timeoutSeconds
  windowSeconds := fields.windowSeconds.getD thresholds.windowSeconds
  rate := fields.rate.getD thresholds.rate
  minimumSamples := fields.minimumSamples.getD thresholds.minimumSamples

/-- The names of the fields in their order. -/
def names : List String :=
  ["failure_threshold", "success_threshold", "timeout_seconds", "failure_window_seconds",
    "failure_rate_threshold", "min_requests_for_rate"]

/-- A field that may be left out or be null. -/
def field {α : Type} (members : Members) (conventions : Conventions) (name : String)
    (decode : Decoder α) : Option (Option α) :=
  members.orElse conventions name (toOption decode) none

/-- Thresholds from the fields that are given. -/
def ofMembers (conventions : Conventions) (members : Members) : Option ThresholdFields := do
  return {
    failures := ← field members conventions "failure_threshold" toWord32
    successes := ← field members conventions "success_threshold" toWord32
    timeoutSeconds := ← field members conventions "timeout_seconds" toWord64
    windowSeconds := ← field members conventions "failure_window_seconds" toWord64
    rate := ← field members conventions "failure_rate_threshold" toDouble
    minimumSamples := ← field members conventions "min_requests_for_rate" toWord32 }

/-- Thresholds of which some may not be set. -/
def decode : Decoder ThresholdFields := fun conventions document => do
  ofMembers conventions (← members names conventions document)

/-- The fields of a document of thresholds; what is not set is null. -/
def encodeFields (fields : ThresholdFields) : List (String × Document) :=
  [("failure_threshold", .ofOption (fun count => .natural count.toNat) fields.failures),
    ("success_threshold", .ofOption (fun count => .natural count.toNat) fields.successes),
    ("timeout_seconds", .ofOption (fun count => .natural count.toNat) fields.timeoutSeconds),
    ("failure_window_seconds", .ofOption (fun count => .natural count.toNat) fields.windowSeconds),
    ("failure_rate_threshold", .ofOption .float fields.rate),
    ("min_requests_for_rate", .ofOption (fun count => .natural count.toNat) fields.minimumSamples)]

/-- The document of thresholds of which some may not be set. -/
def encode (fields : ThresholdFields) : Document := .record fields.encodeFields

end ThresholdFields

/-- The section on breakers. -/
structure BreakerSection where
  /-- The thresholds of every provider. -/
  defaults : ThresholdFields
  /-- The thresholds of single providers, over those of every provider. -/
  providers : Table ThresholdFields
deriving Inhabited

/-- The section on breakers, which must be a record and stands inside one other record or list.
Fields of other names must have usable values. -/
def BreakerSection.decode : Decoder BreakerSection := fun conventions document =>
  match document with
  | record fields => do
    let own ← recordMembers ["providers"] fields
    let providers ← own.orElse conventions "providers" (toEntries ThresholdFields.decode) []
    let shared := fields.filter fun field => field.1 ≠ "providers"
    if !usableFields shared ∨ !conventions.allowsNesting (depthOfFields shared + 2) then none
    let members ← recordMembers ThresholdFields.names shared
    return ⟨← ThresholdFields.ofMembers conventions members, Table.ofList providers⟩
  | _ => none

/-- The document of the section on breakers. -/
def BreakerSection.encode (breakers : BreakerSection) : Document :=
  .record (breakers.defaults.encodeFields ++
    [("providers", .record (breakers.providers.map fun _ fields => fields.encode).entries)])

/-- The section on the selection of providers. -/
structure SelectionSection where
  /-- The smoothing factor of the health statistics. -/
  factor : Option Float
  /-- The success rate below which a provider is degraded. -/
  degradedRate : Option Float
  /-- The latency above which a provider is degraded. -/
  degradedLatency : Option Float
  /-- The providers with credentials. -/
  credentialed : Option (List String)
deriving Inhabited

/-- The section on the selection of providers. -/
def SelectionSection.decode : Decoder SelectionSection := fun conventions document => do
  let members ← members ["ema_alpha", "degraded_success_rate", "degraded_latency_ms",
    "credentialed_providers"] conventions document
  return {
    factor := ← ThresholdFields.field members conventions "ema_alpha" toDouble
    degradedRate := ← ThresholdFields.field members conventions "degraded_success_rate" toDouble
    degradedLatency := ← ThresholdFields.field members conventions "degraded_latency_ms" toDouble
    credentialed := ←
      ThresholdFields.field members conventions "credentialed_providers" (toList toText) }

/-- The document of the section on the selection of providers. -/
def SelectionSection.encode (selection : SelectionSection) : Document :=
  .record [("ema_alpha", .ofOption .float selection.factor),
    ("degraded_success_rate", .ofOption .float selection.degradedRate),
    ("degraded_latency_ms", .ofOption .float selection.degradedLatency),
    ("credentialed_providers", .ofOption .texts selection.credentialed)]

/-- What a settings file sets. -/
structure SettingsFile where
  /-- The section on breakers. -/
  breaker : BreakerSection
  /-- The section on the selection of providers. -/
  selection : SelectionSection
  /-- How many planned attempts a run examines. -/
  maxRetries : Option Nat
  /-- Where the catalog is. -/
  catalogPath : Option String
  /-- Seconds between readings of the catalog. -/
  catalogReload : Option Nat
  /-- Whether breakers are shared. -/
  storeEnabled : Option Bool
  /-- Seconds between looks at what others share. -/
  storeSync : Option Nat
  /-- The folder in which breakers are shared. -/
  storePath : Option String
  /-- Seconds between summaries of the metrics. -/
  metricsLog : Option Nat
  /-- Where the metrics are exported to. -/
  metricsExport : Option String
deriving Inhabited

namespace SettingsFile

/-- A section of optional fields; a section that is left out sets nothing. -/
def sectionMembers (members : Members) (conventions : Conventions) (name : String)
    (fields : List String) : Option Members :=
  members.orElse conventions name (Document.members fields) ⟨[], false⟩

/-- A count in 64 bits. -/
def toCount : Decoder Nat := toNatural UInt64.size

/-- A settings file. -/
def decode : Decoder SettingsFile := fun conventions document => do
  let sections ← members ["breaker", "selector", "failover", "catalog", "store", "metrics"]
    conventions document
  let failover ← sectionMembers sections conventions "failover" ["max_retries"]
  let catalog ← sectionMembers sections conventions "catalog" ["path", "reload_interval_secs"]
  let store ←
    sectionMembers sections conventions "store" ["enabled", "sync_interval_secs", "path"]
  let metrics ←
    sectionMembers sections conventions "metrics" ["log_interval_secs", "export_path"]
  let field {α : Type} (members : Members) (name : String) (decode : Decoder α) :=
    ThresholdFields.field members conventions name decode
  return {
    breaker := ← sections.orElse conventions "breaker" BreakerSection.decode default
    selection := ← sections.orElse conventions "selector" SelectionSection.decode default
    maxRetries := ← field failover "max_retries" toCount
    catalogPath := ← field catalog "path" toText
    catalogReload := ← field catalog "reload_interval_secs" toCount
    storeEnabled := ← field store "enabled" toBool
    storeSync := ← field store "sync_interval_secs" toCount
    storePath := ← field store "path" toText
    metricsLog := ← field metrics "log_interval_secs" toCount
    metricsExport := ← field metrics "export_path" toText }

/-- The document of a settings file; what is not set is null. -/
def encode (file : SettingsFile) : Document :=
  .record [("breaker", file.breaker.encode), ("selector", file.selection.encode),
    ("failover", .record [("max_retries", .ofOption .natural file.maxRetries)]),
    ("catalog", .record [("path", .ofOption .text file.catalogPath),
      ("reload_interval_secs", .ofOption .natural file.catalogReload)]),
    ("store", .record [("enabled", .ofOption .bool file.storeEnabled),
      ("sync_interval_secs", .ofOption .natural file.storeSync),
      ("path", .ofOption .text file.storePath)]),
    ("metrics", .record [("log_interval_secs", .ofOption .natural file.metricsLog),
      ("export_path", .ofOption .text file.metricsExport)])]

end SettingsFile

end ProviderRouting
