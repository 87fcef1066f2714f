import Mathlib
import FlashArb.App.Assemble
import FlashArb.Proofs.StateTriples

/-! Calls that keep a world clean, and the combinators that preserve it. -/
namespace FlashArb

open Std.Do

set_option mvcgen.warning false

section Keeps

variable {σ α : Type} (clean : σ → Prop)

/-- A computation that keeps a clean world clean. -/
abbrev Keeps (x : StateM σ α) : Prop :=
  ⦃fun q => ⌜clean q⌝⦄ x ⦃⇓ _ q => ⌜clean q⌝⦄

/-- A computation with more state that keeps a clean world clean, whatever its own state. -/
abbrev KeepsT {ρ : Type} (op : StateT ρ (StateM σ) α) : Prop :=
  ⦃fun _ q => ⌜clean q⌝⦄ op ⦃⇓ _ _ q => ⌜clean q⌝⦄

variable {clean}

theorem Keeps.run {ρ : Type} {op : StateT ρ (StateM σ) α}
    (h : KeepsT clean op) (init : ρ) : Keeps clean (op.run init) := by
  intro q hq
  have kept := h init q hq
  simp only [wp] at kept ⊢
  exact kept

theorem Keeps.run' {ρ : Type} {op : StateT ρ (StateM σ) α}
    (h : KeepsT clean op) (init : ρ) : Keeps clean (op.run' init) :=
  triple_of_run fun q hq => by
    have kept : clean ((op init).run q).run.2 := run_of_triple (Keeps.run h init) q hq
    simpa [StateT.run'] using kept

theorem Keeps.bind {β : Type} {x : StateM σ α} {f : α → StateM σ β} (first : Keeps clean x)
    (next : ∀ a, Keeps clean (f a)) : Keeps clean (x >>= f) :=
  triple_of_run fun q hq => by
    have kept := run_of_triple (next (x.run q).run.1) _ (run_of_triple first q hq)
    simpa using kept

theorem Keeps.bind_of {β : Type} {R : α → Prop} {x : StateM σ α} {f : α → StateM σ β}
    (first : ⦃fun q => ⌜clean q⌝⦄ x ⦃⇓ a q => ⌜clean q ∧ R a⌝⦄)
    (next : ∀ a, R a → Keeps clean (f a)) : Keeps clean (x >>= f) :=
  triple_of_run fun q hq => by
    obtain ⟨kept, fact⟩ := run_of_triple first q hq
    have finished := run_of_triple (next _ fact) _ kept
    simpa using finished

theorem Keeps.pure (a : α) : Keeps clean (pure a) := by
  mvcgen

theorem Keeps.mapM {β : Type} {f : β → StateM σ α} (xs : List β)
    (h : ∀ b ∈ xs, Keeps clean (f b)) : Keeps clean (xs.mapM f) := by
  induction xs with
  | nil => mvcgen
  | cons b rest ih =>
    have step := h b List.mem_cons_self
    have rest := ih fun b known => h b (List.mem_cons_of_mem _ known)
    simp only [List.mapM_cons]
    mvcgen [step, rest]

end Keeps

/-- The requests that make or prepare a transaction: a signed transaction sent to the node or
privately to a relay, and an account's pending nonce. -/
def transacting : List String :=
  ["eth_sendRawTransaction", "eth_getTransactionCount", "eth_sendPrivateRawTransaction",
    "alchemy_sendPrivateTransaction"]

variable {σ : Type} {clean : σ → Prop}

/-- A connection whose requests keep the world clean, except perhaps those that transact. -/
structure Rpc.Transport.Honest (clean : σ → Prop) (t : Rpc.Transport (StateM σ)) : Prop where
  request : ∀ method params, method ∉ transacting → Keeps clean (t.request method params)
  subscribe : ∀ params, Keeps clean (t.subscribe params)

/-- A network whose connection attempts keep the world clean and give honest connections. -/
structure Chain.Network.Honest (clean : σ → Prop) (net : Chain.Network (StateM σ)) : Prop where
  unix : ∀ path, ⦃fun q => ⌜clean q⌝⦄ net.unix path
    ⦃⇓ r q => ⌜clean q ∧ ∀ t, r = .ok t → t.Honest clean⌝⦄
  tcp : ∀ address, ⦃fun q => ⌜clean q⌝⦄ net.tcp address
    ⦃⇓ r q => ⌜clean q ∧ ∀ t, r = .ok t → t.Honest clean⌝⦄

namespace Chain

variable {net : Network (StateM σ)}

theorem httpTransport_honest (h : net.Honest clean) (url address : String) (hasHost : Bool) :
    (httpTransport net url address hasHost).Honest clean where
  request method params allowed := by
    have tcp := h.tcp
    simp only [httpTransport]
    mvcgen [tcp]
    next why _ s connected =>
      exact connected.1
    next t _ =>
      intro s hs honest
      exact (honest t rfl).request method params allowed s hs
  subscribe params := by
    simp only [httpTransport]
    mvcgen

theorem dial_spec (h : net.Honest clean) (url : String) :
    ⦃fun q => ⌜clean q⌝⦄ dial net url ⦃⇓ r q => ⌜clean q ∧ ∀ t, r = .ok t → t.Honest clean⌝⦄ := by
  have tcp := h.tcp
  have unix := h.unix
  unfold dial
  mvcgen [tcp, unix]
  all_goals and_intros
  any_goals
    first
    | exact ‹clean _›
    | exact (‹clean _ ∧ _›).1
  all_goals rintro _ ⟨⟩
  exact httpTransport_honest h _ _ _

end Chain

namespace Client

variable {t : Rpc.Transport (StateM σ)} (h : t.Honest clean)
include h

theorem send_keeps (method : String) (params : List Json) (allowed : method ∉ transacting) :
    KeepsT clean (send t method params) := by
  have request := h.request method params allowed
  unfold send
  mvcgen [request]

theorem fetch_keeps {α : Type} (method : String) (params : List Json)
    (read : Json → Except Wire.Fault α) (allowed : method ∉ transacting) :
    KeepsT clean (fetch t method params read) := by
  have sent := send_keeps h method params allowed
  unfold fetch
  mvcgen [sent]

theorem chainId_keeps : KeepsT clean (chainId t) := by
  have fetched := fetch_keeps h "eth_chainId" [] Wire.big (by simp [transacting])
  unfold chainId
  mvcgen [fetched]

theorem blockNumber_keeps : KeepsT clean (blockNumber t) :=
  fetch_keeps h _ _ _ (by simp [transacting])

theorem call_keeps (msg : CallMsg) (block : Option Int) :
    KeepsT clean (call t msg block) :=
  fetch_keeps h _ _ _ (by simp [transacting])

theorem estimateGas_keeps (msg : CallMsg) :
    KeepsT clean (estimateGas t msg) :=
  fetch_keeps h _ _ _ (by simp [transacting])

theorem filterLogs_keeps (first last : Nat) (addresses : List Address) (topics : List Hash) :
    KeepsT clean (filterLogs t first last addresses topics) :=
  fetch_keeps h _ _ _ (by simp [transacting])

theorem gasPrice_keeps : KeepsT clean (gasPrice t) :=
  fetch_keeps h _ _ _ (by simp [transacting])

theorem tipCap_keeps : KeepsT clean (tipCap t) :=
  fetch_keeps h _ _ _ (by simp [transacting])

theorem feeCap_keeps (tip : Option Nat) :
    KeepsT clean (feeCap t tip) := by
  have fetched := fetch_keeps h "eth_getBlockByNumber" [blockArg none, .bool false]
    (orNull Header.ofJson) (by simp [transacting])
  unfold feeCap header
  mvcgen [fetched]

theorem subscribeLogs_keeps (addresses : List Address) (topics : List Hash) :
    KeepsT clean (subscribeLogs t addresses topics) := by
  have subscribed := h.subscribe
  unfold subscribeLogs
  mvcgen [subscribed]

end Client

/-- A reader whose calls and head reads keep the world clean. -/
structure ChainReader.Clean (clean : σ → Prop) (r : ChainReader (StateM σ)) : Prop where
  call : ∀ msg block, Keeps clean (r.call msg block)
  latestBlock : Keeps clean r.latestBlock

/-- A log source whose reads and subscriptions keep the world clean. -/
structure LogSource.Clean (clean : σ → Prop) (src : LogSource (StateM σ)) : Prop where
  latestBlock : Keeps clean src.latestBlock
  filterLogs : ∀ first last addresses topics, Keeps clean (src.filterLogs first last addresses topics)
  subscribe : ∀ addresses topics, Keeps clean (src.subscribe addresses topics)

/-- A fee oracle whose suggestions keep the world clean. -/
structure FeeOracle.Clean (clean : σ → Prop) (o : FeeOracle (StateM σ)) : Prop where
  tipCap : Keeps clean o.tipCap
  feeCap : ∀ tip, Keeps clean (o.feeCap tip)
  gasPrice : Keeps clean o.gasPrice

namespace Client

variable {t : Rpc.Transport (StateM σ)} (h : t.Honest clean)
include h

theorem reader_clean : (reader t).Clean clean where
  call msg block := Keeps.run' (call_keeps h msg (block.map Int.ofNat)) {}
  latestBlock := Keeps.run' (blockNumber_keeps h) {}

theorem logSource_clean : (logSource t).Clean clean where
  latestBlock := by
    have head := Keeps.run' (blockNumber_keeps h) {}
    simp only [logSource, once]
    mvcgen [head]
  filterLogs first last addresses topics :=
    Keeps.run' (filterLogs_keeps h first.toNat last.toNat addresses topics) {}
  subscribe addresses topics := by
    have subscribed := Keeps.run' (subscribeLogs_keeps h addresses topics) {}
    simp only [logSource, once]
    mvcgen [subscribed]

theorem feeOracle_clean : (feeOracle t).Clean clean where
  tipCap := by
    have tip := Keeps.run' (tipCap_keeps h) {}
    simp only [feeOracle, once]
    mvcgen [tip]
  feeCap tip := by
    have cap := Keeps.run' (feeCap_keeps h (some tip.toNat)) {}
    simp only [feeOracle, once]
    mvcgen [cap]
  gasPrice := by
    have price := Keeps.run' (gasPrice_keeps h) {}
    simp only [feeOracle, once]
    mvcgen [price]

end Client

theorem Quiet.keeps_emit [LogSink (StateM σ)] [Recorder (StateM σ)] (h : Quiet clean)
    (e : LogEntry) : Keeps clean (LogSink.emit e : StateM σ Unit) :=
  triple_of_run fun q hq => (h.emit e q).symm ▸ hq

theorem Quiet.keeps_record [LogSink (StateM σ)] [Recorder (StateM σ)] (h : Quiet clean)
    (x : Measure) : Keeps clean (Recorder.record x : StateM σ Unit) :=
  triple_of_run fun q hq => (h.record x q).symm ▸ hq

theorem callMethod_keeps {reader : Option (ChainReader (StateM σ))}
    (h : ∀ r, reader = some r → r.Clean clean) (target : Address) (method : Method)
    (block : Option Nat) (args : List Abi.Value) :
    Keeps clean (callMethod reader target method block args) := by
  unfold callMethod
  cases reader with
  | none => mvcgen
  | some r =>
    have call := (h r rfl).call
    mvcgen [call]

namespace Fetcher

variable {f : Fetcher (StateM σ)} (h : f.reader.Clean clean)
include h

theorem view_keeps (target : Address) (method : Method) (block : Option Nat) :
    Keeps clean (f.view target method block) :=
  callMethod_keeps (fun _ known => Option.some.inj known ▸ h) target method block []

theorem viewAddress_keeps (pool : Address) (method : Method) :
    Keeps clean (f.viewAddress pool method) := by
  have viewed := view_keeps h
  unfold viewAddress
  mvcgen [viewed]

theorem readSnapshot_keeps (s : PoolState) : Keeps clean (f.readSnapshot s) := by
  have viewed := view_keeps h
  have head := h.latestBlock
  unfold readSnapshot
  mvcgen [viewed, head]

theorem fetchSnapshot_keeps (s : PoolState) : Keeps clean (f.fetchSnapshot s) := by
  have read := readSnapshot_keeps h
  unfold fetchSnapshot
  mvcgen [read]

theorem readPair_keeps (pool : Address) (kind : DexKind) : Keeps clean (f.readPair pool kind) := by
  have address := viewAddress_keeps h
  unfold readPair
  mvcgen [address]

variable [LogSink (StateM σ)] [Recorder (StateM σ)] (quiet : Quiet clean)
include quiet

theorem readDetails_keeps (state : PoolState) : Keeps clean (f.readDetails state) := by
  have viewed := view_keeps h
  have address := viewAddress_keeps h
  have emit := quiet.keeps_emit
  unfold readDetails
  mvcgen [viewed, address, emit, logKindCorrection, Log.info]

theorem fetchPool_keeps (pool : Address) (kind : DexKind) : Keeps clean (f.fetchPool pool kind) := by
  have pair := readPair_keeps h
  have details := readDetails_keeps h quiet
  have read := readSnapshot_keeps h
  unfold fetchPool
  mvcgen [pair, details, read]

theorem fetchTokenMeta_keeps (cache : TokenMetaCache) (token : Address) :
    Keeps clean (f.fetchTokenMeta cache token) := by
  have viewed := view_keeps h
  have emit := quiet.keeps_emit
  unfold fetchTokenMeta
  mvcgen [viewed, emit, Log.debug]

end Fetcher

theorem Quoter.quote_keeps {q : Quoter (StateM σ)} (h : ∀ r, q.reader = some r → r.Clean clean)
    (leg : Leg) (amountIn : Option Int) : Keeps clean (q.quote leg amountIn) := by
  have called := callMethod_keeps h
  unfold Quoter.quote Quoter.quoteConcentrated Quoter.quoteConstantProduct
  mvcgen [called]

theorem Estimator.estimateGas_keeps {e : Estimator (StateM σ)}
    (estimate : ∀ msg, Keeps clean (e.estimate msg)) (salt : Keeps clean e.freshSalt) (r : Route)
    (amount : Option Int) : Keeps clean (e.estimateGas r amount) := by
  unfold Estimator.estimateGas
  mvcgen [estimate, salt]

section Simulation

variable [LogSink (StateM σ)] [Recorder (StateM σ)] (quiet : Quiet clean)
include quiet

namespace Simulator

variable {s : Simulator (StateM σ)} (quotes : ∀ leg a, Keeps clean (s.quote leg a))
  (estimates : ∀ est, s.estimateGas = some est → ∀ r a, Keeps clean (est r a))

include quotes in
theorem swap_keeps (leg : Leg) (a : Int) : Keeps clean (s.swap leg a) := by
  have quote := quotes leg a
  have record := quiet.keeps_record
  unfold swap
  mvcgen [quote, record]

include estimates in
theorem gasLimit_keeps (r : Route) (amount : Int) : Keeps clean (s.gasLimit r amount) := by
  have emit := quiet.keeps_emit
  cases known : s.estimateGas with
  | none =>
    simp only [gasLimit, known]
    mvcgen
  | some est =>
    have estimate := estimates est known r amount
    simp only [gasLimit, known]
    mvcgen [estimate, emit, Log.warn]

include quotes estimates in
theorem netProfit_keeps (r : Route) (amountIn : Int) (gasPrice : Option Int) :
    Keeps clean (s.netProfit r amountIn gasPrice) := by
  have swap := swap_keeps quiet quotes
  have gas := gasLimit_keeps quiet estimates
  have emit := quiet.keeps_emit
  unfold netProfit
  mvcgen [swap, gas, emit, Log.debug]

end Simulator

namespace LoanSearch

variable {l : LoanSearch (StateM σ)} (profits : ∀ r a g, Keeps clean (l.profit r a g))

theorem dynamicCap_keeps (r : Route) : Keeps clean (l.dynamicCap r) := by
  have emit := quiet.keeps_emit
  unfold dynamicCap
  mvcgen [emit, Log.warn, Log.error]

include profits

theorem score_keeps (r : Route) (gasPrice : Option Int) (a : Int) :
    Keeps clean (l.score r gasPrice a) := by
  have profit := profits r a gasPrice
  have emit := quiet.keeps_emit
  have record := quiet.keeps_record
  unfold score
  mvcgen [profit, emit, record, Log.warn]

theorem findOptimal_keeps (r : Route) (gasPrice : Option Int) :
    Keeps clean (l.findOptimal r gasPrice) := by
  have cap := dynamicCap_keeps quiet (l := l) r
  have grid := fun amounts : List Int =>
    Keeps.mapM amounts fun a _ => score_keeps quiet profits r gasPrice a
  have emit := quiet.keeps_emit
  unfold findOptimal
  mvcgen [cap, grid, emit, Log.info]

end LoanSearch

theorem selectFees_keeps {o : FeeOracle (StateM σ)} (h : o.Clean clean)
    {ended : StateM σ (Option Failure)} (context : Keeps clean ended) (c : FeeConfig) :
    Keeps clean (selectFeesUnder ended o c) := by
  have tip := h.tipCap
  have cap := h.feeCap
  have price := h.gasPrice
  have emit := quiet.keeps_emit
  unfold selectFeesUnder selectFeesUnder.selectDynamic dynamicFees
  mvcgen [context, tip, cap, price, emit, Log.warn, Log.error]

theorem Target.search_keeps (t : Target) (c : PoolCache) : Keeps clean (t.search c) := by
  have emit := quiet.keeps_emit
  unfold Target.search
  mvcgen [emit] invariants
  · ⇓ _ q => ⌜clean q⌝

end Simulation

section Storage

/-- A disk whose operations keep the world clean. -/
structure Disk.Clean (clean : σ → Prop) (d : Disk (StateM σ)) : Prop where
  stat : ∀ p, Keeps clean (d.stat p)
  readFile : ∀ p, Keeps clean (d.readFile p)
  mkdirAll : ∀ p, Keeps clean (d.mkdirAll p)
  writeFile : ∀ p text, Keeps clean (d.writeFile p text)
  appendFile : ∀ p text, Keeps clean (d.appendFile p text)
  rename : ∀ p p', Keeps clean (d.rename p p')

/-- A record sink whose writes and closing keep the world clean. -/
structure Storage.Clean (clean : σ → Prop) (s : Storage (StateM σ)) : Prop where
  putOpportunity : ∀ o, Keeps clean (s.putOpportunity o)
  putSubmission : ∀ r, Keeps clean (s.putSubmission r)
  close : Keeps clean s.close

/-- A Redis client whose commands keep the world clean. -/
structure RedisClient.Clean (clean : σ → Prop) (c : RedisClient (StateM σ)) : Prop where
  ping : Keeps clean c.ping
  xadd : ∀ stream maxLen fields, Keeps clean (c.xadd stream maxLen fields)
  close : Keeps clean c.close

/-- A database network whose lookups and connection attempts keep the world clean. -/
structure Postgres.Network.Clean (clean : σ → Prop) (net : Postgres.Network (StateM σ)) : Prop where
  resolve : ∀ host, Keeps clean (net.resolve host)
  dial : ∀ unix address, Keeps clean (net.dial unix address)

theorem jsonlStorage_clean {d : Disk (StateM σ)} (h : d.Clean clean) (path : FilePath) :
    (jsonlStorage d path).Clean clean := by
  have made := h.mkdirAll
  have appended := h.appendFile
  refine ⟨fun o => ?_, fun r => ?_, ?_⟩
  all_goals
    simp only [jsonlStorage, appendRecord]
    mvcgen [made, appended]

theorem Storage.multi_clean {sinks : List (Storage (StateM σ))}
    (h : ∀ s ∈ sinks, s.Clean clean) : (Storage.multi sinks).Clean clean := by
  refine ⟨fun o => ?_, fun r => ?_, ?_⟩
  · have each := Keeps.mapM sinks fun s known => (h s known).putOpportunity o
    simp only [Storage.multi]
    mvcgen [each]
  · have each := Keeps.mapM sinks fun s known => (h s known).putSubmission r
    simp only [Storage.multi]
    mvcgen [each]
  · have each := Keeps.mapM sinks fun s known => (h s known).close
    simp only [Storage.multi]
    mvcgen [each]

theorem Publisher.storage_clean {p : Publisher (StateM σ)} (h : p.client.Clean clean) :
    p.storage.Clean clean := by
  have added := h.xadd
  refine ⟨fun o => ?_, fun r => ?_, h.close⟩
  all_goals
    simp only [Publisher.storage, Publisher.publish]
    mvcgen [added]

namespace Postgres

variable {net : Network (StateM σ)} (h : net.Clean clean)
include h

theorem connectFailure_keeps (c : ConnConfig) : Keeps clean (connectFailure net c) := by
  have resolved := h.resolve
  have dialled := h.dial
  unfold connectFailure
  mvcgen [resolved, dialled] invariants
  · ⇓ _ q => ⌜clean q⌝
  · ⇓ _ q => ⌜clean q⌝

theorem execute_keeps : KeepsT clean (execute net) := by
  have failed := connectFailure_keeps h
  unfold execute
  mvcgen [failed]

theorem ensureSchema_keeps : KeepsT clean (ensureSchema net) := by
  have executed := execute_keeps h
  unfold ensureSchema
  mvcgen [executed]

theorem storage_clean (store : Store) : (Storage.fromState (storage net) store).Clean clean := by
  have executed := execute_keeps h
  refine ⟨fun o => Keeps.run' ?_ store, fun r => Keeps.run' ?_ store, Keeps.run' ?_ store⟩
  · simp only [storage]
    split <;> mvcgen [executed]
  · simp only [storage]
    split <;> mvcgen [executed]
  · simp only [storage]
    mvcgen

end Postgres

end Storage

end FlashArb
