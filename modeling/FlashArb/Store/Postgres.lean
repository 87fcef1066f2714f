import FlashArb.Store.Record
import FlashArb.Store.Postgres.Settings
import FlashArb.Time.Rfc3339

/-! Records kept in a database. -/
namespace FlashArb.Postgres

open FlashArb.Net

/-- How the database's network behaves: what a host name resolves to, and why a connection
attempt fails, for a socket file (`unix`) or a network address. -/
structure Network (m : Type → Type) where
  resolve : String → m (Except String (List String))
  dial : (unix : Bool) → String → m String

/-- An opened store. -/
structure Store where
  config : ConnConfig
  closed : Bool := false

/-- Opens a store from its connection string. -/
def Store.create (env : Surroundings) (dsn : String) : Outcome Store :=
  if dsn.isEmpty then .error (.plain "pg dsn is required")
  else match parseConfig env dsn with
    | .ok c => .ok { config := c }
    | .error e => .error (.plain e)

/-- A path cleaned of empty and `.` segments and of `..` after a segment it can undo; a rooted
path drops `..` at its root, and an empty relative path is `.`. -/
def cleanPath (p : String) : String :=
  let rooted := p.startsWith "/"
  let kept := ((p.splitOn "/").foldl (fun acc s =>
    if s == "" || s == "." then acc
    else if s == ".." then
      match acc with
      | top :: rest => if top == ".." then s :: acc else rest
      | [] => if rooted then [] else [s]
    else s :: acc) []).reverse
  let body := "/".intercalate kept
  if rooted then "/" ++ body else if body.isEmpty then "." else body

def socketFile (dir : String) (port : Nat) : String :=
  cleanPath (dir ++ "/.s.PGSQL.") ++ toString port

/-- Why taking a connection fails. -/
def connectFailure {m : Type → Type} [Monad m] (net : Network m) (c : ConnConfig) : m String := do
  let mut attempts : List (Bool × String) := []
  let mut lookups : List String := []
  for t in c.targets do
    if isSocketDir t.host then
      attempts := attempts ++ [(true, socketFile t.host t.port)]
    else
      match ← net.resolve t.host with
      | .error e => lookups := lookups ++ [e]
      | .ok ips => attempts := attempts ++ ips.map fun ip => (false, joinHostPort ip (toString t.port))
  let head := "failed to connect to `host=" ++ ((c.targets.head?.map (·.host)).getD "") ++
    " user=" ++ c.user ++ " database=" ++ c.database ++ "`: "
  if attempts.isEmpty then
    return head ++ "hostname resolving error (" ++ lookups.headD "ip addr wasn't found" ++ ")"
  let mut last := ""
  for (unix, address) in attempts do
    last ← net.dial unix address
  return head ++ "dial error (" ++ last ++ ")"

def execute {m : Type → Type} [Monad m] (net : Network m) : StateT Store m (Outcome Unit) := do
  let s ← get
  if s.closed then return .error (.plain "closed pool")
  return .error (.plain (← (connectFailure net s.config : m String)))

def ensureSchema {m : Type → Type} [Monad m] (net : Network m) : StateT Store m (Outcome Unit) := do
  return (← execute net).mapError (Failure.wrap "ensure schema")

def checkTimestamp (value : String) : Except String Unit :=
  match Time.parseRfc3339 value with
  | .ok _ => .ok ()
  | .error e => .error ("parse timestamp " ++ Text.quote value ++ ": " ++ e)

/-- Checks an amount: empty, or decimal digits after an optional sign. -/
def checkAmount (value : String) : Except String Unit :=
  let digits := match value.toList with
    | '+' :: r => r
    | '-' :: r => r
    | r => r
  if value.isEmpty || (!digits.isEmpty && digits.all Char.isDigit) then .ok ()
  else .error ("invalid integer " ++ Text.quote value)

/-- Checks what an opportunity's columns need. -/
def checkOpportunity (o : Opportunity) : Except String Unit := do
  checkTimestamp o.detectedAt
  checkAmount o.loanAmount
  checkAmount o.netProfit
  checkAmount o.gasPrice

def checkSubmission (s : SubmissionRecord) : Except String Unit := do
  checkTimestamp s.submittedAt
  checkTimestamp s.finishedAt

/-- The store as a sink for records. -/
def storage {m : Type → Type} [Monad m] (net : Network m) : Storage (StateT Store m) where
  putOpportunity o :=
    match checkOpportunity o with
    | .error e => return .error (.plain ("opportunity " ++ o.id ++ ": " ++ e))
    | .ok () => execute net
  putSubmission s :=
    match checkSubmission s with
    | .error e => return .error (.plain ("submission " ++ s.opportunityId ++ ": " ++ e))
    | .ok () => execute net
  close := do
    modify fun s => { s with closed := true }
    return .ok ()

end FlashArb.Postgres
