import FlashArb.App.Services
import FlashArb.Store.Jsonl
import FlashArb.Log
import FlashArb.Config.Basic

/-! Where a bot's records go: the record file, and the database and Redis when configured. -/
namespace FlashArb

/-- A sink kept in a state, run from the state it was opened in. -/
def Storage.fromState {m : Type → Type} [Monad m] {σ : Type} (s : Storage (StateT σ m)) (init : σ) :
    Storage m :=
  { putOpportunity := fun o => (s.putOpportunity o).run' init
    putSubmission := fun r => (s.putSubmission r).run' init
    close := s.close.run' init }

end FlashArb

namespace FlashArb.App

variable {m : Type → Type} [Monad m] [LogSink m]

/-- Opens the storage a configuration asks for. -/
def openStorage (sv : Services m) (c : Config) : m (Outcome (Storage m)) := do
  let file := jsonlStorage sv.disk (sv.path c.out)
  let withDatabase ← if c.pgDsn.isEmpty then pure (Except.ok [file]) else
    match Postgres.Store.create sv.databaseEnv c.pgDsn with
    | .error f => pure (.error (f.wrap "connect postgres"))
    | .ok store =>
      let (made, store) ← (Postgres.ensureSchema sv.database).run store
      match made with
      | .error f => pure (.error (f.wrap "ensure schema"))
      | .ok () =>
        Log.info "postgres storage enabled"
        pure (.ok [file, Storage.fromState (Postgres.storage sv.database) store])
  match withDatabase with
  | .error f => return .error f
  | .ok sinks =>
    if c.redisAddr.isEmpty then return .ok (Storage.multi sinks)
    let client := sv.redis c.redisAddr
    match ← client.ping with
    | .error f =>
      let _ ← (Storage.multi sinks).close
      let _ ← client.close
      return .error (f.wrap "connect redis")
    | .ok () =>
      Log.info "redis stream enabled" [Log.text "stream" c.redisStream]
      return .ok (Storage.multi (sinks ++ [(Publisher.mk client c.redisStream).storage]))

end FlashArb.App
