import FlashArb.Metrics.Collectors
import FlashArb.Float.Text

/-! The collectors as metric families, in the text and protocol-buffer formats. -/
namespace FlashArb.Metrics

/-- The type of a family. -/
inductive FamilyType where
  | counter
  | gauge
  | histogram
deriving DecidableEq

def FamilyType.name : FamilyType → String
  | .counter => "counter"
  | .gauge => "gauge"
  | .histogram => "histogram"

/-- The value of one series. -/
inductive Reading where
  | scalar (v : Float)
  | distribution (h : Histogram)

/-- One series: its label pairs and its value. -/
structure Series where
  labels : List (String × String)
  reading : Reading

/-- A metric family. -/
structure Family where
  name : String
  help : String
  type : FamilyType
  series : List Series

def counterSeries (label : String) (vs : List (String × Nat)) : List Series :=
  vs.map fun (v, n) => ⟨[(label, v)], .scalar (Float.ofNat n)⟩

/-- The collectors' families in registration order. -/
def Collectors.families (c : Collectors) : List Family :=
  [⟨"arb_route_candidates_total", "Route candidates emitted by the search", .counter,
      [⟨[], .scalar (Float.ofNat c.candidates)⟩]⟩,
    ⟨"arb_evaluations_total", "Completed evaluation passes", .counter,
      [⟨[], .scalar (Float.ofNat c.evaluations)⟩]⟩,
    ⟨"arb_loan_samples_total", "Loan-size samples by result", .counter,
      counterSeries "result" c.samples⟩,
    ⟨"arb_submissions_total", "Submission attempts by outcome", .counter,
      counterSeries "outcome" c.submissions⟩,
    ⟨"arb_pool_events_total", "Decoded pool and factory events by kind", .counter,
      counterSeries "kind" c.events⟩,
    ⟨"arb_quoter_errors_total", "Quote failures by DEX kind", .counter,
      counterSeries "dex" c.quoteErrors⟩,
    ⟨"arb_quoter_latency_seconds", "Time to obtain a DEX quote", .histogram,
      c.latency.map fun (v, h) => ⟨[("dex", v)], .distribution h⟩⟩,
    ⟨"arb_last_best_profit", "Net profit of the last profitable opportunity, in loan-token units",
      .gauge, [⟨[], .scalar c.bestProfit⟩]⟩,
    ⟨"arb_cached_pools", "Pools held in the state cache", .gauge, [⟨[], .scalar c.cachedPools⟩]⟩]

/-- Whether the label values of `a` come before those of `b`: fewer labels first, then the
first differing value decides. -/
def labelsBefore : List (String × String) → List (String × String) → Bool
  | [], [] => false
  | [], _ :: _ => true
  | _ :: _, [] => false
  | (_, x) :: xs, (_, y) :: ys =>
    if xs.length != ys.length then xs.length < ys.length
    else if x == y then labelsBefore xs ys else decide (x < y)

def gather (fs : List Family) : List Family :=
  let kept := (fs.filter fun f => !f.series.isEmpty).map fun f =>
    { f with series := f.series.mergeSort fun a b => !labelsBefore b.labels a.labels }
  kept.mergeSort fun a b => decide (a.name ≤ b.name)

/-- The two publication formats. -/
inductive Format where
  | classic
  | openMetrics
deriving DecidableEq

/-- Escapes a backslash and a line break, and a double quote when `quotes` is set. -/
def escape (quotes : Bool) (s : String) : String :=
  String.ofList <| s.toList.flatMap fun c =>
    if c == '\\' then ['\\', '\\']
    else if c == '\n' then ['\\', 'n']
    else if quotes && c == '"' then ['\\', '"']
    else [c]

/-- A sample value as the exposition writes it; OpenMetrics adds `.0` to a plain integer. -/
def Format.number (fmt : Format) (x : Float) : String :=
  if x == 1 then (if fmt == .openMetrics then "1.0" else "1")
  else if x == 0 then (if fmt == .openMetrics then "0.0" else "0")
  else if x == -1 then (if fmt == .openMetrics then "-1.0" else "-1")
  else
    let t := Binary64.format x
    if fmt == .openMetrics && x.isFinite && !(t.toList.any fun c => c == '.' || c == 'e')
    then t ++ ".0" else t

def Format.count (fmt : Format) (n : Nat) : String :=
  if fmt == .openMetrics then toString n else fmt.number (Float.ofNat n)

def Format.familyName (fmt : Format) (f : Family) : String :=
  if fmt == .openMetrics && f.type == .counter && f.name.endsWith "_total" then
    String.ofList (f.name.toList.take (f.name.length - 6))
  else f.name

def labelText (pairs : List (String × String)) : String :=
  if pairs.isEmpty then ""
  else "\x7b" ++ ",".intercalate (pairs.map fun (k, v) => k ++ "=\"" ++ escape true v ++ "\"")
    ++ "\x7d"

def sampleLine (name : String) (pairs : List (String × String)) (value : String) : String :=
  name ++ labelText pairs ++ " " ++ value ++ "\n"

/-- The sample lines of one series. -/
def Format.seriesLines (fmt : Format) (name : String) (s : Series) : String :=
  match s.reading with
  | .scalar v => sampleLine name s.labels (fmt.number v)
  | .distribution h =>
    String.join (h.buckets.map fun (b, n) =>
        sampleLine (name ++ "_bucket") (s.labels ++ [("le", fmt.number b)]) (fmt.count n))
      ++ sampleLine (name ++ "_bucket") (s.labels ++ [("le", "+Inf")]) (fmt.count h.count)
      ++ sampleLine (name ++ "_sum") s.labels (fmt.number h.sum)
      ++ sampleLine (name ++ "_count") s.labels (fmt.count h.count)

/-- A family: its help and type comments, then its series. -/
def Format.family (fmt : Format) (f : Family) : String :=
  let shown := fmt.familyName f
  "# HELP " ++ shown ++ " " ++ escape (fmt == .openMetrics) f.help ++ "\n"
    ++ "# TYPE " ++ shown ++ " " ++ f.type.name ++ "\n"
    ++ String.join (f.series.map (fmt.seriesLines f.name))

def Format.document (fmt : Format) (fs : List Family) : String :=
  String.join ((gather fs).map fmt.family) ++ (if fmt == .openMetrics then "# EOF\n" else "")

end FlashArb.Metrics
