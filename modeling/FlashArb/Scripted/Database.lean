import FlashArb.Store.Postgres

/-! The network the database store meets in the recorded runs. -/
namespace FlashArb.Scripted

open FlashArb.Net

/-- The scripted database network. -/
def offlineDatabase {m : Type → Type} [Monad m] : Postgres.Network m where
  resolve host := pure <|
    if (parseIp? host).isSome then .ok [host] else .error ("lookup " ++ host ++ ": no such host")
  dial unix address := pure <|
    if unix then "dial unix " ++ address ++ ": connect: no such file or directory"
    else "dial tcp " ++ address ++ ": connect: network is unreachable"

def scratchDir : String := "/tmp/scratch-7f3a"

end FlashArb.Scripted
