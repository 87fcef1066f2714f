import FlashArb.Scripted.Chain
import FlashArb.Scripted.Feed
import FlashArb.Files.Disk
import FlashArb.Store.Redis
import FlashArb.Log
import FlashArb.Measure
import FlashArb.Route.Basic
import FlashArb.Scripted.Rpc
import FlashArb.Submit.Nonce

/-! The state of a run against scripted services. -/
namespace FlashArb.Scripted

/-- Scripted services and what a run has recorded so far, most recent first. -/
structure World where
  chain : ChainFake := {}
  quotes : List (Leg × Int) := []
  measures : List Measure := []
  logs : List LogEntry := []
  feed : LogFeed := {}
  files : FileTree := {}
  opportunities : List Opportunity := []
  submissions : List SubmissionRecord := []
  requests : List TxRequest := []
  redisClosed : Bool := false
  node : RpcNode := {}
  /-- Nanoseconds since 1970. -/
  clock : Nat := 0
  threshold : Level := .debug
  nonces : Option NonceManager := none

/-- Runs against the scripted world. -/
abbrev ScriptM := StateM World

instance : LogSink ScriptM :=
  ⟨fun e => modify fun w => if e.level.atLeast w.threshold then { w with logs := e :: w.logs } else w⟩

instance : Recorder ScriptM := ⟨fun m => modify fun w => { w with measures := m :: w.measures }⟩

def noteQuote (leg : Leg) (amountIn : Int) : ScriptM Unit :=
  modify fun w => { w with quotes := (leg, amountIn) :: w.quotes }

def worldDisk : Disk ScriptM :=
  FileTree.disk (do return (← get).files) fun t => modify fun w => { w with files := t }

/-- A sink keeping records in the world; it never fails. -/
def worldStorage : Storage ScriptM :=
  { putOpportunity := fun o => do
      modify fun w => { w with opportunities := w.opportunities ++ [o] }
      return .ok ()
    putSubmission := fun s => do
      modify fun w => { w with submissions := w.submissions ++ [s] }
      return .ok ()
    close := return .ok () }

/-- The scripted log feed as a log source. -/
def feedSource : LogSource ScriptM :=
  { latestBlock := modifyGet fun w => let (r, f) := w.feed.latestBlock; (r, { w with feed := f })
    filterLogs := fun a b addrs topics => modifyGet fun w =>
      let (r, f) := w.feed.filterLogs a b addrs topics
      (r, { w with feed := f })
    subscribe := fun addrs _ => modifyGet fun w =>
      let (r, f) := w.feed.subscribe addrs
      (r, { w with feed := f }) }

def scriptedSubmit (result : Submission × Option Failure) : TxSubmit ScriptM := fun req => do
  modify fun w => { w with requests := w.requests ++ [req] }
  return result

/-- A client of a Redis server at `address` that cannot be reached: every command fails to
dial until the client is closed, and then fails as closed. -/
def redisAt (address : String) : RedisClient ScriptM :=
  let command : ScriptM (Outcome Unit) := do
    if (← get).redisClosed then return .error (Failure.plain "redis: client is closed")
    return .error (Failure.plain ("dial tcp " ++ address ++ ": connect: network is unreachable"))
  { ping := command
    xadd := fun _ _ _ => command
    close := do
      if (← get).redisClosed then return .error (Failure.plain "redis: client is closed")
      modify fun w => { w with redisClosed := true }
      return .ok () }

def unreachableRedis : RedisClient ScriptM := redisAt "$REDIS"

/-- The test's own Redis server: whether it was stopped before the publisher ran, and the keys
of the plain strings set on it. -/
structure RedisServer where
  stopped : Bool := false
  strings : List String := []

/-- The stream at `key` as the test reads it back after the publisher's steps: none when a plain
string holds the key, else empty, as no command reached the server. A stopped server has
released its handle, which the read dereferences. -/
def RedisServer.readStream (srv : RedisServer) (key : String) : Outcome (Option (List Json)) :=
  if srv.stopped then
    .error (Failure.plain "runtime error: invalid memory address or nil pointer dereference")
  else .ok (if srv.strings.contains key then none else some [])

/-- Contract state read from the scripted chain. -/
def chainReader : ChainReader ScriptM :=
  { call := fun msg block => modifyGet fun w =>
      let (r, c) := w.chain.call msg block
      (r, { w with chain := c })
    latestBlock := do return (← get).chain.latestBlock }

end FlashArb.Scripted
