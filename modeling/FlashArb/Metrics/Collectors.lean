import FlashArb.Measure

/-! The monitoring counters, gauges and the quote-latency histogram, held as values. -/
namespace FlashArb.Metrics

def latencyBounds : List Float := [0.005, 0.01, 0.025, 0.05, 0.1, 0.25, 0.5, 1, 2.5, 5, 10]

/-- A histogram: each upper bound with the number of observations not above it, then the
number of all observations and their sum in the order they were made. -/
structure Histogram where
  buckets : List (Float × Nat)
  count : Nat
  sum : Float

namespace Histogram

def empty (bounds : List Float) : Histogram := ⟨bounds.map fun b => (b, 0), 0, 0⟩

def observe (v : Float) (h : Histogram) : Histogram :=
  { buckets := h.buckets.map fun (b, n) => (b, if v ≤ b then n + 1 else n)
    count := h.count + 1
    sum := h.sum + v }

end Histogram

def bump {α : Type} (zero : α) (f : α → α) (label : String) :
    List (String × α) → List (String × α)
  | [] => [(label, f zero)]
  | (l, v) :: rest => if l == label then (l, f v) :: rest else (l, v) :: bump zero f label rest

def seconds (ns : Int) : Float :=
  Float.ofInt (ns.tdiv 1000000000) + Float.ofInt (ns.tmod 1000000000) / 1000000000

/-- The bot's collectors. -/
structure Collectors where
  candidates : Nat := 0
  evaluations : Nat := 0
  samples : List (String × Nat) := []
  submissions : List (String × Nat) := []
  events : List (String × Nat) := []
  quoteErrors : List (String × Nat) := []
  latency : List (String × Histogram) := []
  bestProfit : Float := 0
  cachedPools : Float := 0

namespace Collectors

def observeQuote (c : Collectors) (dex : DexKind) (ns : Int) (failed : Bool) : Collectors :=
  let timed := bump (Histogram.empty latencyBounds) (Histogram.observe (seconds ns)) dex.name
  let c := { c with latency := timed c.latency }
  if failed then { c with quoteErrors := bump 0 (· + 1) dex.name c.quoteErrors } else c

def observeSample (c : Collectors) (result : String) : Collectors :=
  { c with samples := bump 0 (· + 1) result c.samples }

def observeCandidates (c : Collectors) (n : Nat) : Collectors :=
  { c with candidates := c.candidates + n }

def observeEvaluation (c : Collectors) : Collectors :=
  { c with evaluations := c.evaluations + 1 }

def observeSubmission (c : Collectors) (outcome : String) : Collectors :=
  { c with submissions := bump 0 (· + 1) outcome c.submissions }

def observeEvent (c : Collectors) (kind : String) : Collectors :=
  { c with events := bump 0 (· + 1) kind c.events }

def setBestProfit (c : Collectors) (v : Float) : Collectors := { c with bestProfit := v }

def setCachedPools (c : Collectors) (n : Int) : Collectors := { c with cachedPools := Float.ofInt n }

/-- Updates the collectors with one measurement. -/
def record (c : Collectors) : Measure → Collectors
  | .quote kind ns failed => c.observeQuote kind ns failed
  | .sample outcome => c.observeSample outcome.name
  | .candidates n => c.observeCandidates n
  | .evaluation => c.observeEvaluation
  | .submission outcome => c.observeSubmission outcome
  | .event kind => c.observeEvent kind
  | .bestProfit v => c.setBestProfit v
  | .cachedPools n => c.setCachedPools n

def recordAll (c : Collectors) (ms : List Measure) : Collectors := ms.foldl record c

end Collectors

end FlashArb.Metrics
