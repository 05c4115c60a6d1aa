import ProviderRouting.Number.Binary64
import ProviderRouting.Time.Duration

/-!
# Histograms

A histogram counts values in buckets with upper bounds.  A value goes to the first bucket whose
bound it does not exceed; what is above all bounds, or not a number, goes to the last bucket.
Besides, the whole parts of the values are summed, on 64-bit words, and their extremes kept.
-/

namespace ProviderRouting

/-- Counts of values by bucket. -/
structure Histogram where
  /-- The upper bounds of the buckets. -/
  bounds : List Float
  /-- The number of values in each bucket. -/
  counts : List Nat
  /-- The number of values. -/
  total : Nat
  /-- The sum of the whole parts, on 64-bit words. -/
  sum : Nat
  /-- The least whole part, the largest word before any value. -/
  least : Nat
  /-- The greatest whole part. -/
  greatest : Nat
deriving Inhabited

/-- What a histogram shows. -/
structure HistogramSnapshot where
  /-- The upper bounds of the buckets. -/
  bounds : List Float
  /-- The number of values in each bucket. -/
  counts : List Nat
  /-- The number of values. -/
  total : Nat
  /-- The sum of the whole parts. -/
  sum : Nat
  /-- The least whole part, zero if there is none. -/
  least : Nat
  /-- The greatest whole part. -/
  greatest : Nat
  /-- The mean whole part, zero if there is none. -/
  mean : Float

namespace Histogram

/-- The largest 64-bit word. -/
def maxWord : Nat := UInt64.size - 1

/-- A histogram without values. -/
def ofBounds (bounds : List Float) : Histogram where
  bounds := bounds
  counts := bounds.map fun _ => 0
  total := 0
  sum := 0
  least := maxWord
  greatest := 0

/-- The bounds in milliseconds for call latencies. -/
def latencyBounds : List Float :=
  [50.0, 100.0, 250.0, 500.0, 1000.0, 2500.0, 5000.0, 10000.0, 30000.0, 60000.0, 120000.0]

/-- A histogram for call latencies in milliseconds. -/
def latencies : Histogram := ofBounds latencyBounds

/-- The bucket of a value. -/
def bucket (bounds : List Float) (value : Float) : Nat :=
  (bounds.findIdx? fun bound => value ≤ bound).getD (bounds.length - 1)

/-- Record a value.  A histogram without buckets ignores it. -/
def record (value : Float) (histogram : Histogram) : Histogram :=
  if histogram.bounds.isEmpty then histogram
  else
    let whole := value.toUInt64.toNat
    { histogram with
      counts := histogram.counts.modify (bucket histogram.bounds value) (· + 1)
      total := histogram.total + 1
      sum := (histogram.sum + whole) % UInt64.size
      least := min histogram.least whole
      greatest := max histogram.greatest whole }

@[simp] theorem bounds_record (value : Float) (histogram : Histogram) :
    (histogram.record value).bounds = histogram.bounds := by
  unfold record
  split <;> rfl

/-- Record a duration in milliseconds. -/
def recordDuration (duration : Duration) (histogram : Histogram) : Histogram :=
  histogram.record duration.toMilliseconds

/-- What the histogram shows. -/
def snapshot (histogram : Histogram) : HistogramSnapshot where
  bounds := histogram.bounds
  counts := histogram.counts
  total := histogram.total
  sum := histogram.sum
  least := if histogram.least = maxWord then 0 else histogram.least
  greatest := histogram.greatest
  mean :=
    if 0 < histogram.total then Binary64.ofNat histogram.sum / Binary64.ofNat histogram.total
    else 0.0

end Histogram

namespace HistogramSnapshot

/-- The number of values that the buckets up to a quantile must hold. -/
def target (total : Nat) (quantile : Float) : Nat :=
  max (Binary64.ceil (Binary64.ofNat total * quantile)) 1

/-- The bound of the first bucket at which the counts add up to the target; `fallback` if they
never do. -/
def scan (target : Nat) (fallback : Float) : List Float → List Nat → (below : Nat) → Float
  | bound :: bounds, count :: counts, below =>
    if target ≤ below + count then bound else scan target fallback bounds counts (below + count)
  | _, _, _ => fallback

/-- The bound of the bucket that holds a quantile, zero without values. -/
def percentile (snapshot : HistogramSnapshot) (quantile : Float) : Float :=
  if snapshot.total = 0 then 0.0
  else scan (target snapshot.total quantile) (snapshot.bounds.getLast?.getD 0.0)
    snapshot.bounds snapshot.counts 0

end HistogramSnapshot

end ProviderRouting
