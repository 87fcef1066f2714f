import FlashArb.App.Assemble
import FlashArb.Scripted.Host
import FlashArb.Scripted.Chain
import FlashArb.Config.Json
import FlashArb.Store.Json
import FlashArb.Metrics.Listen
import FlashArb.Failure.Json

/-! Each step of wiring a bot on the recorded host, answered as JSON. -/
namespace FlashArb.Scripted

def nodeAddr : String := "127.0.0.1:18545"

def homeDir : List String := ["tmp", "arbbot-host"]

def homeText : String := "/" ++ "/".intercalate homeDir

def fillPlaceholders (s : String) : String :=
  ((s.replace "$NODE_HTTP" ("http://" ++ nodeAddr)).replace "$DIR" homeText).replace "$TMP" scratchDir

def showPlaceholders (s : String) : String :=
  (((s.replace ("http://" ++ nodeAddr) "$NODE_HTTP").replace nodeAddr "$NODE_ADDR").replace
    homeText "$DIR").replace scratchDir "<tmp>"

/-- How many requests the node received of each of the given methods. -/
def nodeCounts (node : RpcNode) (methods : List String) : Json :=
  .obj (methods.map fun name =>
    (name, Json.ofNat (node.requests.countP fun r => match r.field "method" with
      | .str m => m == name
      | _ => false)))

def logsJson (w : World) : Json := .arr (w.logs.reverse.map LogEntry.toJson)

/-- The addresses of a configuration, and all faults among them. -/
def wireParseAddresses (j : Json) : Decode Json := do
  let (a, fault) := App.Addresses.ofConfig (← Config.ofJson (j.field "config"))
  let shown : Json := .obj [("loan", Json.addr a.loan), ("quote", Json.addr a.quote),
    ("executor", Json.addr a.executor), ("vault", Json.addr a.vault), ("quoter", Json.addr a.quoter),
    ("velo_router", Json.addr a.veloRouter), ("factories", .arr (a.factories.map Json.addr))]
  return match fault with
    | none => shown
    | some f => shown.push "error" f.toJson

/-- The fee bounds of a configuration in wei. -/
def wireFeeConfig (j : Json) : Decode Json := do
  return match App.feeConfigOf (← Config.ofJson (j.field "config")) with
    | .error f => f.toJson
    | .ok fc => .obj [("fixed_gas_price", Json.opt Json.intText fc.fixedGasPrice),
        ("max_priority_fee", Json.opt Json.intText fc.maxPriorityFee),
        ("fallback_priority_fee", Json.opt Json.intText fc.fallbackPriorityFee),
        ("timeout_ns", Json.ofNat fc.timeoutNs)]

/-- The decimals of a token, configured or read from the scripted chain, with the calls made. -/
def wireResolveDecimals (j : Json) : Decode Json := do
  let world : World := { chain := ← ChainFake.ofJson (j.field "chain") }
  let fetcher : Fetcher ScriptM := { reader := chainReader, loanToken := Address.zero, quoteToken := Address.zero }
  let token ← Field.address j "token"
  let configured ← Field.int j "configured"
  let ((r, _), w) := (App.resolveDecimals fetcher [] token configured).run world
  let calls := Json.arr (w.chain.callLog.map RecordedCall.toJson)
  return match r with
    | .ok d => .obj [("decimals", Json.ofNat d), ("calls", calls)]
    | .error f => f.toJson.push "calls" calls

def wireNewLogger (j : Json) : Decode Json := do
  return match App.levelOf (← Field.string j "level") with
    | .ok l => .obj [("level", .str l.name)]
    | .error f => f.toJson

/-- Stores one record of a request. -/
def putRecordOf {m : Type → Type} (sink : Storage m) (j : Json) : Decode (m (Outcome Unit)) := do
  match ← Field.string j "kind" with
  | "opportunity" => return sink.putOpportunity (← Opportunity.ofJson (j.field "record"))
  | "submission" => return sink.putSubmission (← SubmissionRecord.ofJson (j.field "record"))
  | other => throw ("unknown record kind " ++ other)

def stepJson : Outcome Unit → Json
  | .ok () => .obj []
  | .error f => f.toJson

def streamJson (redis : Json) (stream : String) : Json :=
  if (redis.field "strings").has stream then .null else .arr []

/-- Opens the storage of a configuration, stores the records and closes it. -/
def wireOpenStorage (j : Json) : Decode Json := do
  let j := j.mapText fillPlaceholders
  let config ← Config.ofJson (j.field "config")
  let redis := j.field "redis"
  let sv := hostServices homeDir {}
  let world : World := {}
  let (opened, w) := (App.openStorage sv config).run world
  let outText : Json := match w.files.readFile (FilePath.ofRelative config.out) with
    | .ok text => .str text
    | .error _ => .null
  let withStream (a : Json) : Json :=
    if j.has "redis" then a.push "stream" (streamJson redis config.redisStream) else a
  match opened with
  | .error f =>
    return (withStream ((f.toJson.push "logs" (logsJson w)).push "out" outText)).mapText showPlaceholders
  | .ok sink =>
    let (steps, w) ← (j.field "records").items.foldlM (fun (acc, w) r => do
      let (out, w) := (← putRecordOf sink r).run w
      return (acc ++ [stepJson out], w)) (([] : List Json), w)
    let (closed, w) := sink.close.run w
    let outText : Json := match w.files.readFile (FilePath.ofRelative config.out) with
      | .ok text => .str text
      | .error _ => .null
    let answer : Json := .obj [("steps", .arr steps)]
    let answer := match closed with
      | .ok () => answer
      | .error f => answer.push "close_error" (.str f.message)
    return (withStream ((answer.push "logs" (logsJson w)).push "out" outText)).mapText showPlaceholders

/-- Assembles a bot against the scripted node and answers what it holds. -/
def wireNewApp (j : Json) : Decode Json := do
  let j := j.mapText fillPlaceholders
  let script ← RpcScript.ofJson (j.field "node")
  let config ← Config.ofJson (j.field "config")
  let follow ← Field.bool j "follow"
  let serve ← Field.bool j "serve_metrics"
  let counted ← (j.field "count").items.mapM fun v => match v with
    | .str s => Except.ok s
    | _ => Except.error "count holds a non-string"
  let sv := hostServices homeDir {}
  let world : World := { node := { script } }
  let run : ScriptM (Outcome (App.Bot ScriptM)) := do
    match ← App.build sv config follow with
    | .error f => return .error f
    | .ok bot =>
      if serve then
        let _ ← Metrics.serve (m := ScriptM) config.metricsAddr
      bot.close
      return .ok bot
  let (built, w) := run.run world
  let counts := nodeCounts w.node counted
  let answer : Json := match built with
    | .error f => (f.toJson.push "logs" (logsJson w)).push "node_counts" counts
    | .ok bot => .obj [("relays", Json.ofNat bot.relays.length),
        ("separate_log_client", .bool bot.separateLogClient), ("dry_run", .bool bot.config.dryRun),
        ("logs", logsJson w), ("node_counts", counts)]
  return answer.mapText showPlaceholders

end FlashArb.Scripted
