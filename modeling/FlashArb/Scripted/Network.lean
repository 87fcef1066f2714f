import FlashArb.Chain.Dial
import FlashArb.Scripted.Rpc
import FlashArb.Net.Ip

/-! The network of the recorded runs. -/
namespace FlashArb.Scripted

/-- What a name of the working directory is. -/
inductive Place where
  | dir
  | file
  | socket
deriving DecidableEq

/-- Why connecting to a unix socket path fails, or `none` when it reaches the socket. -/
def socketFailure (place : List String → Option Place) (path : String) : Option String :=
  let absolute := path.startsWith "/"
  let comps := path.splitOn "/"
  let comps := if absolute then comps.drop 1 else comps
  let rec walk : List String → List String → Place → Option String
    | [], _, kind =>
      if kind == .socket then none else some "connect: connection refused"
    | c :: rest, cur, kind =>
      if kind != .dir then some "connect: not a directory"
      else if c == "" || c == "." then walk rest cur .dir
      else if c == ".." then
        walk rest (if cur.isEmpty || cur.getLast? == some ".." then cur ++ [".."]
          else if cur == ["/"] then cur else cur.dropLast) .dir
      else
        let next := cur ++ [c]
        let found := if next.head? == some ".." then none else place next
        match found with
        | none => some "connect: no such file or directory"
        | some k => walk rest next k
  walk comps (if absolute then ["/"] else []) .dir

/-- Why dialling a TCP address fails: no network is reachable, and only IP addresses and
`localhost` resolve. -/
def offlineTcp (address : String) : String :=
  match Net.splitHostPort address with
  | .ok (host, port) =>
    if (Net.parseIp? host).isSome then "dial tcp " ++ address ++ ": connect: network is unreachable"
    else if host == "localhost" then
      "dial tcp " ++ Net.joinHostPort "127.0.0.1" port ++ ": connect: network is unreachable"
    else "dial tcp: lookup " ++ host ++ ": no such host"
  | .error e => "dial tcp " ++ address ++ ": " ++ e

/-- The scripted network around a node kept in a monad's state: `place` says what the names
of the working directory are. -/
def scriptedNetwork {m : Type → Type} [Monad m] (place : List String → Option Place)
    (load : m RpcNode) (store : RpcNode → m Unit) : Chain.Network m where
  unix path :=
    match socketFailure place path with
    | none => return .ok (RpcNode.transport load store)
    | some why => return .error why
  tcp address := return .error (offlineTcp address)

end FlashArb.Scripted
