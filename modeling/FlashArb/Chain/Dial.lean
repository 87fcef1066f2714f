import FlashArb.Chain.Rpc
import FlashArb.Chain.Wire
import FlashArb.Net.Url
import FlashArb.Net.HostPort

/-! Reaching a node: the URL's scheme picks the connection. -/
namespace FlashArb.Chain

/-- How the world answers connection attempts. -/
structure Network (m : Type → Type) where
  /-- The node behind a unix socket path, or why connecting fails (`connect: ...`). -/
  unix : String → m (Except String (Rpc.Transport m))
  /-- The node at a TCP address `host:port`, or the whole failure of dialling it. -/
  tcp : String → m (Except String (Rpc.Transport m))

/-- The host and port of a URL's authority, the port defaulting by scheme. -/
def hostPortOf (scheme host : String) : String :=
  let defaultPort := if scheme == "https" || scheme == "wss" then "443" else "80"
  match host.toList with
  | '[' :: rest =>
    let inner := rest.takeWhile (· != ']')
    let after := rest.drop (inner.length + 1)
    let port := match after with
      | ':' :: p => if p.isEmpty then defaultPort else String.ofList p
      | _ => defaultPort
    Net.joinHostPort (String.ofList inner) port
  | cs =>
    match (List.range cs.length).reverse.find? (cs[·]? == some ':') with
    | some i =>
      let port := cs.drop (i + 1)
      if port.all Char.isDigit then
        Net.joinHostPort (String.ofList (cs.take i)) (if port.isEmpty then defaultPort else String.ofList port)
      else Net.joinHostPort host defaultPort
    | none => Net.joinHostPort host defaultPort

section

variable {m : Type → Type} [Monad m]

/-- The connection that posts each request to `url` at `address`. -/
def httpTransport (net : Network m) (url address : String) (hasHost : Bool) : Rpc.Transport m where
  request method params := do
    if !hasHost then return .error (.unreachable ("Post " ++ Text.quote url ++ ": http: no Host in request URL"))
    match ← net.tcp address with
    | .error why => return .error (.unreachable ("Post " ++ Text.quote url ++ ": " ++ why))
    | .ok t => t.request method params
  subscribe _ := return .error Rpc.notificationsUnsupported
  perRequest := true

/-- Connects to the node at a URL. -/
def dial (net : Network m) (rawurl : String) : m (Except String (Rpc.Transport m)) := do
  match Net.Url.parse rawurl with
  | .error e => return .error e
  | .ok u =>
    if u.scheme == "http" || u.scheme == "https" then
      return .ok (httpTransport net rawurl (hostPortOf u.scheme u.host) !u.host.isEmpty)
    else if u.scheme == "ws" || u.scheme == "wss" then
      net.tcp (hostPortOf u.scheme u.host)
    else if u.scheme.isEmpty then
      if rawurl.isEmpty then return .error "dial unix: missing address"
      match ← net.unix rawurl with
      | .ok t => return .ok t
      | .error why => return .error ("dial unix " ++ rawurl ++ ": " ++ why)
    else return .error ("no known transport for URL scheme " ++ Text.quote u.scheme)

end

def relayMethod (url : String) : String :=
  if ((Text.toLower url).splitOn "alchemy").length > 1 then "alchemy_sendPrivateTransaction"
  else "eth_sendPrivateRawTransaction"

/-- A connected relay. -/
structure RelayClient (m : Type → Type) where
  url : String
  transport : Rpc.Transport m

namespace RelayClient

variable {m : Type → Type} [Monad m]

def dial (net : Network m) (url : String) : m (Except String (RelayClient m)) := do
  match ← Chain.dial net url with
  | .ok t => return .ok ⟨url, t⟩
  | .error e => return .error ("dial relay: " ++ e)

/-- Sends a signed transaction; the relay answers the transaction's hash. -/
def send (r : RelayClient m) (raw : Bytes) : m (Outcome Hash) := do
  let method := relayMethod r.url
  let rawHex := Wire.dataJson raw
  let params := if method == "alchemy_sendPrivateTransaction" then [.obj [("tx", rawHex)]] else [rawHex]
  let fail (why : String) : Failure := .plain (method ++ " via " ++ r.url ++ ": " ++ why)
  match ← r.transport.request method params with
  | .error e => return .error (fail e.message)
  | .ok j =>
    match Wire.hash j with
    | .ok h => return .ok h
    | .error f => return .error (fail f.message)

end RelayClient

end FlashArb.Chain
