import ProviderRouting.Breaker.Phase
import ProviderRouting.Health.Stats
import ProviderRouting.Catalog.Offering

/-!
# Ranking of candidates

A candidate is an offering with the phase and the health of its provider.  Candidates are compared
by open or not, priority, phase, health, success rate, latency, cost and at last by name; doubles
are compared in their total order, so any two candidates of different providers are apart.
-/

namespace ProviderRouting

/-- An offering with what its ranking depends on. -/
structure Candidate where
  /-- The offering. -/
  offering : Offering
  /-- The phase of the provider's breaker. -/
  phase : Phase
  /-- Whether the provider's health is degraded. -/
  degraded : Bool
  /-- The provider's health. -/
  health : HealthSnapshot

namespace Candidate

/-- Whether the provider's breaker is open. -/
def isOpen (candidate : Candidate) : Bool := candidate.phase == .opened

/-- The rank of a phase among candidates of one priority. -/
def phaseRank (candidate : Candidate) : Nat :=
  match candidate.phase with
  | .closed => 0
  | .halfOpen => 1
  | .opened => 2

/-- What is compared before the name, most important first; a smaller number is better.  Statistics
of a tracker are numbers, so nothing is lost where what is not a number has no sign. -/
def rankKey (candidate : Candidate) : List Int :=
  [candidate.isOpen.toNat,
    candidate.offering.priority.toNat,
    candidate.phaseRank,
    candidate.degraded.toNat,
    -Binary64.orderKey candidate.health.successRate,
    Binary64.orderKey candidate.health.latencyMilliseconds,
    candidate.offering.combinedCost.orderKey]

/-- Compare two keys of one length, the first difference counting. -/
def compareKeys : List Int → List Int → Ordering
  | left :: lefts, right :: rights => (compare left right).then (compareKeys lefts rights)
  | _, _ => .eq

/-- Compare two candidates; the lesser one is tried first. -/
def compare (left right : Candidate) : Ordering :=
  (compareKeys left.rankKey right.rankKey).then
    (Ord.compare left.offering.provider right.offering.provider)

/-- Whether a candidate may stand before another. -/
def precedes (left right : Candidate) : Bool := compare left right != .gt

/-- Candidates in the order in which they are tried. -/
def rank (candidates : List Candidate) : List Candidate := candidates.mergeSort precedes

/-- Move the first candidate that passes a test to the front. -/
def pin (test : Candidate → Bool) (candidates : List Candidate) : List Candidate :=
  match candidates.find? test with
  | some candidate => candidate :: candidates.eraseP test
  | none => candidates

end Candidate

end ProviderRouting
