import ProviderRouting.Catalog.Offering
import ProviderRouting.Health.Stats

/-!
# Selection settings

The settings of the selection say how health is smoothed, which health counts as degraded, and
which providers have credentials.
-/

namespace ProviderRouting

/-- How providers are selected. -/
structure Selection where
  /-- The smoothing factor of the health statistics. -/
  factor : Float
  /-- The success rate below which a provider is degraded. -/
  degradedRate : Float
  /-- The latency in milliseconds above which a provider is degraded. -/
  degradedLatency : Float
  /-- The providers with credentials; without such a list every provider has them. -/
  credentialed : Option (List String)
deriving Inhabited

namespace Selection

/-- The settings used when none are given. -/
def standard : Selection := ⟨standardFactor, 0.8, 10000.0, none⟩

/-- Whether the credentials that an offering needs are there. -/
def hasCredentials (selection : Selection) (offering : Offering) : Bool :=
  !offering.requiresCredentials
    || match selection.credentialed with
      | some providers => providers.contains offering.provider
      | none => true

/-- The inspection text of the settings. -/
def inspect (selection : Selection) : String :=
  let credentialed := match selection.credentialed with
    | some providers => "Some(\x7b" ++ ", ".intercalate (providers.map Text.inspect) ++ "\x7d)"
    | none => "None"
  "SelectorConfig \x7b ema_alpha: " ++ NumberStyle.inspect.write selection.factor
    ++ ", degraded_success_rate: " ++ NumberStyle.inspect.write selection.degradedRate
    ++ ", degraded_latency_ms: " ++ NumberStyle.inspect.write selection.degradedLatency
    ++ ", credentialed_providers: " ++ credentialed ++ " \x7d"

end Selection

end ProviderRouting
