import FlashArb.Net.Url
import FlashArb.Net.Ip
import FlashArb.Net.HostPort
import FlashArb.Text.Number
import FlashArb.Time.Duration

/-! Database connection strings, as URLs or `name=value` pairs. -/
namespace FlashArb.Postgres

open FlashArb.Net

/-- Settings by name; the first entry of a name counts. -/
abbrev Settings := List (String × String)

def Settings.put (s : Settings) (k v : String) : Settings := (k, v) :: s.filter (·.1 != k)

def Settings.merge (base later : Settings) : Settings :=
  later.foldr (fun (k, v) acc => acc.put k v) base

/-- What the process's surroundings contribute: a socket directory, the account, readable files. -/
structure Surroundings where
  socketDir : String := "/tmp"
  userName : String := "root"
  home : String := "/root"
  readable : String → Option String := fun p => if p == "/dev/null" then some "" else none

def defaults (env : Surroundings) : Settings :=
  [("host", env.socketDir), ("port", "5432"), ("user", env.userName),
    ("passfile", env.home ++ "/.pgpass"), ("servicefile", env.home ++ "/.pg_service.conf"),
    ("target_session_attrs", "any")]

/-- Hides passwords in a connection string that is not a readable URL: quoted and plain
`password=` values become `xxxxx`, and `:secret@` becomes `:xxxxxx@`. -/
def hidePasswords (s : String) : String :=
  let n := s.length + 1
  String.ofList (replaceUserinfo n (replacePlain n (replaceQuoted n s.toList)))
where
  /-- `password='...'` to `password=xxxxx`. -/
  replaceQuoted : Nat → List Char → List Char
    | 0, cs => cs
    | _, [] => []
    | fuel + 1, c :: rest =>
      let key := "password='".toList
      if (c :: rest).take key.length == key then
        let after := (c :: rest).drop key.length
        match after.findIdx? (· == '\'') with
        | some i => "password=xxxxx".toList ++ replaceQuoted fuel (after.drop (i + 1))
        | none => c :: replaceQuoted fuel rest
      else c :: replaceQuoted fuel rest
  /-- `password=...` up to a blank to `password=xxxxx`. -/
  replacePlain : Nat → List Char → List Char
    | 0, cs => cs
    | _, [] => []
    | fuel + 1, c :: rest =>
      let key := "password=".toList
      if (c :: rest).take key.length == key then
        let after := (c :: rest).drop key.length
        "password=xxxxx".toList ++ replacePlain fuel (after.dropWhile (· != ' '))
      else c :: replacePlain fuel rest
  /-- `:secret@` to `:xxxxxx@`, for a secret without `:` or `@`. -/
  replaceUserinfo : Nat → List Char → List Char
    | 0, cs => cs
    | _, [] => []
    | fuel + 1, c :: rest =>
      if c == ':' then
        let run := rest.takeWhile fun x => x != ':' && x != '@'
        if !run.isEmpty && (rest.drop run.length).head? == some '@' then
          ":xxxxxx@".toList ++ replaceUserinfo fuel (rest.drop (run.length + 1))
        else c :: replaceUserinfo fuel rest
      else c :: replaceUserinfo fuel rest

def isUrlForm (s : String) : Bool := s.startsWith "postgres://" || s.startsWith "postgresql://"

/-- A connection string as shown in messages, its password hidden. -/
def redact (s : String) : String :=
  if isUrlForm s then
    match Url.parse s with
    | .ok u =>
      Url.render (match u.user with
        | some i => if i.password.isSome then { u with user := some { i with password := some "xxxxx" } } else u
        | none => u)
    | .error _ => hidePasswords s
  else hidePasswords s

def isAddressOnly (host : String) : Bool :=
  isIpLiteral (String.ofList ((host.toList.dropWhile (fun c => c == '[' || c == ']')).reverse.dropWhile
    (fun c => c == '[' || c == ']')).reverse) || !host.contains ':'

/-- The settings of a URL connection string. -/
def urlSettings (s : String) : Except String Settings := do
  let u ← Url.parse s
  let mut out : Settings := []
  if let some i := u.user then
    out := out.put "user" i.username
    if let some p := i.password then out := out.put "password" p
  let mut hosts : List String := []
  let mut ports : List String := []
  for h in u.host.splitOn "," do
    if h.isEmpty then continue
    if isAddressOnly h then
      hosts := hosts ++ [String.ofList ((h.toList.dropWhile (fun c => c == '[' || c == ']')).reverse.dropWhile
        (fun c => c == '[' || c == ']')).reverse]
      continue
    match splitHostPort h with
    | .error e => throw ("failed to split host:port in '" ++ h ++ "', err: " ++ e)
    | .ok (name, port) =>
      if !name.isEmpty then hosts := hosts ++ [name]
      if !port.isEmpty then ports := ports ++ [port]
  if !hosts.isEmpty then out := out.put "host" (",".intercalate hosts)
  if !ports.isEmpty then out := out.put "port" (",".intercalate ports)
  let database := String.ofList (u.path.toList.dropWhile (· == '/'))
  if !database.isEmpty then out := out.put "database" database
  let mut seen : List String := []
  for (k, v) in Url.queryPairs u.rawQuery do
    if seen.contains k then continue
    seen := k :: seen
    out := out.put (if k == "dbname" then "database" else k) v
  return out

def isBlank (c : Char) : Bool := c == ' ' || c == '\t' || c == '\n' || c == '\r' || c == '\x0b' || c == '\x0c'

def unescapeValue (cs : List Char) : String :=
  let once := ("\\".intercalate ((String.ofList cs).splitOn "\\\\"))
  "'".intercalate (once.splitOn "\\'")

/-- Reads an unquoted value up to a blank; a backslash takes the next character with it. -/
def plainValue : List Char → Option (List Char × List Char)
  | [] => some ([], [])
  | c :: rest =>
    if isBlank c then some ([], rest)
    else if c == '\\' then
      match rest with
      | [] => none
      | d :: more => (plainValue more).map fun (v, r) => (c :: d :: v, r)
    else (plainValue rest).map fun (v, r) => (c :: v, r)

/-- Reads a quoted value up to its closing quote; a backslash takes the next character. -/
def quotedValue : List Char → Option (List Char × List Char)
  | [] => none
  | c :: rest =>
    if c == '\'' then some ([], rest)
    else if c == '\\' then
      match rest with
      | [] => none
      | d :: more => (quotedValue more).map fun (v, r) => (c :: d :: v, r)
    else (quotedValue rest).map fun (v, r) => (c :: v, r)

/-- The settings of a key/value connection string. -/
def pairSettings (fuel : Nat) (s : List Char) (acc : Settings) : Except String Settings :=
  match fuel with
  | 0 => .ok acc
  | fuel + 1 =>
    if s.isEmpty then .ok acc
    else
      match s.findIdx? (· == '=') with
      | none => .error "invalid dsn"
      | some eq =>
        let key := String.ofList ((s.take eq).dropWhile isBlank |>.reverse.dropWhile isBlank |>.reverse)
        let rest := (s.drop (eq + 1)).dropWhile isBlank
        let read : Except String (String × List Char) :=
          match rest with
          | [] => .ok ("", [])
          | '\'' :: r =>
            match quotedValue r with
            | some (v, after) => .ok (unescapeValue v, after)
            | none => .error "unterminated quoted string in connection info string"
          | r =>
            match plainValue r with
            | some (v, after) => .ok (unescapeValue v, after)
            | none => .error "invalid backslash"
        match read with
        | .error e => .error e
        | .ok (value, after) =>
          let key := if key == "dbname" then "database" else key
          if key.isEmpty then .error "invalid dsn"
          else pairSettings fuel after (acc.put key value)

/-- A connection string's own settings. -/
def stringSettings (s : String) : Except String Settings :=
  if s.isEmpty then .ok []
  else if isUrlForm s then
    match urlSettings s with
    | .ok v => .ok v
    | .error e => .error ("failed to parse as URL (" ++ e ++ ")")
  else
    match pairSettings (s.length + 1) s.toList [] with
    | .ok v => .ok v
    | .error e => .error ("failed to parse as DSN (" ++ e ++ ")")

def isSocketDir (host : String) : Bool :=
  host.startsWith "/" || match host.toList with
    | d :: ':' :: '\\' :: _ => d.toNat < 128 && d.isAlpha
    | _ => false

/-- One place to connect to. -/
structure Target where
  host : String
  port : Nat
  /-- Whether the connection is attempted with TLS. -/
  tls : Bool

/-- A connection configuration. -/
structure ConnConfig where
  database : String
  user : String
  password : String
  targets : List Target

def holdsPem (text : String) : Bool := (text.splitOn "-----BEGIN ").length > 1

/-- The TLS attempts for a network host, by mode: `disable` tries without, `allow` without
then with, `prefer` (the default) with then without, the others with only. -/
def tlsAttempts (env : Surroundings) (settings : Settings) : Except String (List Bool) := do
  let mode := (settings.lookup "sslmode").getD ""
  let mode := if mode.isEmpty then "prefer" else mode
  if mode == "disable" then return [false]
  if !(["allow", "prefer", "require", "verify-ca", "verify-full"].contains mode) then
    throw "sslmode is invalid"
  let rootCert := (settings.lookup "sslrootcert").getD ""
  if !rootCert.isEmpty then
    match env.readable rootCert with
    | none => throw ("unable to read CA file: open " ++ rootCert ++ ": no such file or directory")
    | some text => if !holdsPem text then throw "unable to add CA to cert pool"
  let cert := (settings.lookup "sslcert").getD ""
  let key := (settings.lookup "sslkey").getD ""
  if cert.isEmpty != key.isEmpty then throw "both \"sslcert\" and \"sslkey\" are required"
  if !cert.isEmpty then
    match env.readable key with
    | none => throw ("unable to read sslkey: open " ++ key ++ ": no such file or directory")
    | some text => if !holdsPem text then throw "failed to decode sslkey"
  return match mode with
    | "allow" => [false, true]
    | "prefer" => [true, false]
    | _ => [true]

def intSetting (text : String) (bits : Nat) : Except String Int := Text.parseInt text 10 bits

def cannotParse {α : Type} (conn what : String) : Except String α :=
  .error ("cannot parse `" ++ redact conn ++ "`: " ++ what)

/-- Reads a connection string in an environment into a configuration, or says why it cannot;
a failure is the whole message. -/
def parseConfig (env : Surroundings) (conn : String) : Except String ConnConfig := do
  let own ← match stringSettings conn with
    | .ok v => pure v
    | .error e => cannotParse conn e
  let settings := (defaults env).merge own
  if let some service := settings.lookup "service" then
    let file := (settings.lookup "servicefile").getD ""
    return ← match env.readable file with
      | none => cannotParse conn ("failed to read service (failed to read service file: " ++ file ++ ")")
      | some _ => cannotParse conn ("failed to read service (unable to find service: " ++ service ++ ")")
  if let some t := settings.lookup "connect_timeout" then
    match intSetting t 64 with
    | .error e => return ← cannotParse conn ("invalid connect_timeout (" ++ e ++ ")")
    | .ok v => if v < 0 then return ← cannotParse conn "invalid connect_timeout (negative timeout)"
  let hosts := ((settings.lookup "host").getD "").splitOn ","
  let ports := ((settings.lookup "port").getD "").splitOn ","
  let mut targets : List Target := []
  for (host, i) in hosts.zipIdx do
    let portText := (ports[i]?).getD (ports.headD "")
    let port ← match Text.parseUint portText 10 16 with
      | .error e => cannotParse conn ("invalid port (" ++ e ++ ")")
      | .ok p => if p < 1 then cannotParse conn "invalid port (outside range)" else pure p
    if isSocketDir host then
      targets := targets ++ [⟨host, port, false⟩]
    else
      match tlsAttempts env settings with
      | .error e => return ← cannotParse conn ("failed to configure TLS (" ++ e ++ ")")
      | .ok modes => targets := targets ++ modes.map fun t => ⟨host, port, t⟩
  let attrs := (settings.lookup "target_session_attrs").getD ""
  if !(["read-write", "read-only", "primary", "standby", "prefer-standby", "any"].contains attrs) then
    return ← cannotParse conn ("unknown target_session_attrs value: " ++ attrs)
  for name in ["statement_cache_capacity", "description_cache_capacity"] do
    if let some v := settings.lookup name then
      if let .error e := intSetting v 32 then throw ("cannot parse " ++ name ++ ": " ++ e)
  if let some mode := settings.lookup "default_query_exec_mode" then
    if !(["cache_statement", "cache_describe", "describe_exec", "exec", "simple_protocol"].contains mode) then
      throw ("invalid default_query_exec_mode: " ++ mode)
  if let some v := settings.lookup "pool_max_conns" then
    match intSetting v 32 with
    | .error e => throw ("cannot parse pool_max_conns: " ++ e)
    | .ok n => if n < 1 then throw ("pool_max_conns too small: " ++ toString n)
  if let some v := settings.lookup "pool_min_conns" then
    if let .error e := intSetting v 32 then throw ("cannot parse pool_min_conns: " ++ e)
  for name in ["pool_max_conn_lifetime", "pool_max_conn_idle_time", "pool_health_check_period",
      "pool_max_conn_lifetime_jitter"] do
    if let some v := settings.lookup name then
      if let .error e := Time.parseDuration v then throw ("invalid " ++ name ++ ": " ++ e)
  return { database := (settings.lookup "database").getD "", user := (settings.lookup "user").getD "",
           password := (settings.lookup "password").getD "", targets }

end FlashArb.Postgres
