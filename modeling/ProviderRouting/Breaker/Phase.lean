/-!
# Breaker phases

A breaker is closed while calls flow, open while they are rejected, and half-open while single
probes find out whether the provider has recovered.
-/

namespace ProviderRouting

/-- The phase of a breaker. -/
inductive Phase where
  /-- Calls are admitted. -/
  | closed
  /-- Calls are rejected until the timeout has passed. -/
  | opened
  /-- One probe at a time is admitted. -/
  | halfOpen
deriving DecidableEq, Inhabited

namespace Phase

/-- The name used in messages and listings. -/
def name : Phase → String
  | closed => "closed"
  | opened => "open"
  | halfOpen => "half_open"

/-- The name used in stored and exchanged data. -/
def code : Phase → String
  | closed => "CLOSED"
  | opened => "OPEN"
  | halfOpen => "HALF_OPEN"

/-- The name used in inspection texts. -/
def label : Phase → String
  | closed => "Closed"
  | opened => "Open"
  | halfOpen => "HalfOpen"

/-- The value exported as a gauge. -/
def gauge : Phase → Nat
  | closed => 0
  | halfOpen => 1
  | opened => 2

/-- All phases. -/
def all : List Phase := [closed, opened, halfOpen]

/-- The phase with a given code. -/
def ofCode? (code : String) : Option Phase := all.find? (·.code = code)

end Phase

end ProviderRouting
