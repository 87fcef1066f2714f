import FlashArb.Chain.Dial
import FlashArb.Files.Disk
import FlashArb.Store.Postgres
import FlashArb.Store.Redis
import FlashArb.Submit.Nonce

/-! The outside world a bot is wired to, in the monad it runs in. -/
namespace FlashArb.App

/-- The outside world of a bot. -/
structure Services (m : Type → Type) where
  network : Chain.Network m
  disk : Disk m
  /-- The place a configured path names. -/
  path : String → FilePath
  database : Postgres.Network m
  databaseEnv : Postgres.Surroundings := {}
  /-- A client of the Redis server at an address; it connects when first used. -/
  redis : String → RedisClient m
  /-- Nanoseconds since 1970 in UTC. -/
  clock : m Nat
  sleepUntil : Nat → m Unit
  salt : m Nat
  nonces : m (Option NonceManager)
  keepNonces : NonceManager → m Unit

end FlashArb.App
