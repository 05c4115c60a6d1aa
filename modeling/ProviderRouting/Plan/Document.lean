import ProviderRouting.Document.Decoding
import ProviderRouting.Plan.Selection
import ProviderRouting.Table

/-!
# Selection settings in documents

Selection settings as they are written in documents of their own, where the figures must all be
given.
-/

namespace ProviderRouting

open Document

/-- Selection settings.  The providers with credentials are a set of names. -/
def Selection.decode : Decoder Selection := fun conventions document => do
  let members ← members ["ema_alpha", "degraded_success_rate", "degraded_latency_ms",
    "credentialed_providers"] conventions document
  let credentialed ← members.optional conventions "credentialed_providers" (toList toText)
  return {
    factor := ← members.required conventions "ema_alpha" toDouble
    degradedRate := ← members.required conventions "degraded_success_rate" toDouble
    degradedLatency := ← members.required conventions "degraded_latency_ms" toDouble
    credentialed := credentialed.map distinctNames }

/-- The document of selection settings. -/
def Selection.encode (selection : Selection) : Document :=
  .record [("ema_alpha", .float selection.factor),
    ("degraded_success_rate", .float selection.degradedRate),
    ("degraded_latency_ms", .float selection.degradedLatency),
    ("credentialed_providers", .ofOption .texts selection.credentialed)]

end ProviderRouting
