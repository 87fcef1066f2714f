import Mathlib
import FlashArb.App.Commands
import FlashArb.Proofs.ReadOnlyCalls
import FlashArb.Proofs.EngineSteps
import FlashArb.Proofs.RecordedHost

/-! A scan sends no transaction, asks for no pending nonce and calls no relay: in a world that
every service but the transacting requests keeps clean (`Services.Clean`), it keeps it clean. -/
namespace FlashArb

open Std.Do

set_option mvcgen.warning false

variable {σ : Type} {clean : σ → Prop}

theorem Engine.opportunity_keeps {e : Engine (StateM σ)} (clock : Keeps clean e.clock) (r : Route)
    (sample : LoanSample) (gasPrice : Int) : KeepsT clean (e.opportunity r sample gasPrice) := by
  unfold Engine.opportunity
  mvcgen [clock]

variable [LogSink (StateM σ)] [Recorder (StateM σ)]

theorem RetryPolicy.go_keeps (quiet : Quiet clean) {α : Type} {attempt : StateM σ (Outcome α)}
    (h : Keeps clean attempt) (op : String) (left n delay : Nat) :
    Keeps clean (RetryPolicy.go op attempt left n delay) := by
  have emit := quiet.keeps_emit
  induction left generalizing n delay with
  | zero => exact h
  | succ left ih =>
    unfold RetryPolicy.go
    mvcgen [h, emit, ih, Log.warn]

/-- The collaborators of an engine that its scans use keep the world clean. -/
structure Engine.Clean (clean : σ → Prop) (e : Engine (StateM σ)) : Prop where
  reader : e.fetcher.reader.Clean clean
  finder : ∀ c, Keeps clean (e.finder c)
  loans : ∀ c r g, Keeps clean (e.loans c r g)
  fees : ∀ ended, Keeps clean ended → Keeps clean (e.fees ended)
  sink : e.sink.Clean clean
  logs : ∀ src, e.logs = some src → src.Clean clean
  clock : Keeps clean e.clock

namespace Engine

variable {e : Engine (StateM σ)} (quiet : Quiet clean) (h : e.Clean clean)
include quiet h

theorem loadPool_keeps (pool : Address) (kind : DexKind) : KeepsT clean (e.loadPool pool kind) := by
  have fetched := Fetcher.fetchPool_keeps h.reader quiet pool kind
  have retried := fun attempt (kept : Keeps clean attempt) =>
    RetryPolicy.go_keeps quiet (α := Option (PoolState × PoolSnapshot) × Option Failure) kept
      "fetch pool"
  unfold loadPool RetryPolicy.run
  mvcgen [retried]
  mvcgen [fetched]

theorem bootstrap_keeps : KeepsT clean e.bootstrap := by
  have load := loadPool_keeps quiet h
  have emit := quiet.keeps_emit
  have record := quiet.keeps_record
  cases known : e.logs with
  | none =>
    simp only [bootstrap, known]
    mvcgen [load, emit, record, emit_stateT, record_stateT, Log.warn, Log.info] invariants
    · ⇓ _ _ q => ⌜clean q⌝
  | some src =>
    have head := (h.logs src known).latestBlock
    simp only [bootstrap, known]
    mvcgen [head, load, emit, record, emit_stateT, record_stateT, observeBlock, Log.warn, Log.info]
      invariants
    · ⇓ _ _ q => ⌜clean q⌝

theorem sizeRoutes_keeps {ended : StateM σ (Option Failure)} (context : Keeps clean ended)
    (gasPrice : Int) (routes : List Route) (opps : List Opportunity) (best : Option Best) :
    KeepsT clean (e.sizeRoutes ended gasPrice routes opps best) := by
  induction routes generalizing opps best with
  | nil =>
    unfold sizeRoutes
    mvcgen
  | cons r rest ih =>
    have loans := h.loans
    have opportunity := opportunity_keeps h.clock
    have put := h.sink.putOpportunity
    have emit := quiet.keeps_emit
    unfold sizeRoutes
    mvcgen [context, loans, opportunity, put, ih, emit, emit_stateT, Log.warn, Log.debug, Log.info]

theorem evaluate_keeps (dry : e.config.dryRun = true ∨ e.submitter = none)
    {ended : StateM σ (Option Failure)} (context : Keeps clean ended) :
    KeepsT clean (e.evaluate ended) := by
  have fees := h.fees ended context
  have finder := h.finder
  have sized := sizeRoutes_keeps quiet h context
  have emit := quiet.keeps_emit
  have record := quiet.keeps_record
  unfold evaluate pass
  rcases dry with dry | none
  · simp only [dry, ↓reduceIte]
    mvcgen [fees, finder, sized, emit, record, emit_stateT, record_stateT, Log.debug, Log.info]
  · simp only [none]
    mvcgen [fees, finder, sized, emit, record, emit_stateT, record_stateT, Log.debug, Log.info]

end Engine

namespace App

/-- The outside world of a bot keeps the world clean: the network but for the transacting requests,
the disk, the database, Redis, the clock and the salts. -/
structure Services.Clean (clean : σ → Prop) (sv : Services (StateM σ)) : Prop where
  network : sv.network.Honest clean
  disk : sv.disk.Clean clean
  database : sv.database.Clean clean
  redis : ∀ address, (sv.redis address).Clean clean
  clock : Keeps clean sv.clock
  salt : Keeps clean sv.salt

theorem hostServices_clean (home : List String) (tree : FileTree) :
    (Scripted.hostServices home tree).Clean Scripted.World.Untransacted where
  network := Scripted.hostNetwork_honest home tree
  disk := Scripted.worldDisk_clean
  database := Scripted.offlineDatabase_clean
  redis := Scripted.redisAt_clean
  clock := by
    simp only [Scripted.hostServices]
    mvcgen
  salt := by
    simp only [Scripted.hostServices]
    mvcgen

theorem settle_config {c c' : Config} {level : Level} (settled : settle c = .ok (c', level)) :
    c' = c := by
  unfold settle at settled
  split at settled
  · cases settled
  · cases known : levelOf c.logLevel with
    | error f =>
      rw [known] at settled
      cases settled
    | ok l =>
      rw [known] at settled
      cases settled
      rfl

section Scan

variable {sv : Services (StateM σ)} (quiet : Quiet clean) (h : sv.Clean clean)
include h

omit [LogSink (StateM σ)] [Recorder (StateM σ)] in
theorem loadConfig_keeps (env : List (String × String)) (flags : List Cli.Flag) :
    Keeps clean (loadConfig sv env flags) := by
  have looked : ∀ names : List String,
      Keeps clean (names.mapM fun n => do return (n, ← sv.disk.stat (sv.path n))) :=
    fun names => Keeps.mapM names fun n _ => by
      have stat := h.disk.stat (sv.path n)
      mvcgen [stat]
  unfold loadConfig
  mvcgen [looked]

include quiet

theorem openStorage_spec (c : Config) :
    ⦃fun q => ⌜clean q⌝⦄ openStorage sv c ⦃⇓ r q => ⌜clean q ∧ ∀ s, r = .ok s → s.Clean clean⌝⦄ := by
  have schema := Keeps.run (Postgres.ensureSchema_keeps h.database)
  have emit := quiet.keeps_emit
  have file := jsonlStorage_clean h.disk (sv.path c.out)
  have database := Postgres.storage_clean h.database
  have ping := (h.redis c.redisAddr).ping
  have closed := (h.redis c.redisAddr).close
  have publisher := Publisher.storage_clean (p := ⟨sv.redis c.redisAddr, c.redisStream⟩) (h.redis c.redisAddr)
  have fileOnly : Keeps clean (Storage.multi [jsonlStorage sv.disk (sv.path c.out)]).close :=
    (Storage.multi_clean fun s known => by
      rw [List.mem_singleton.mp known]
      exact file).close
  have withDatabase : ∀ store, Keeps clean (Storage.multi [jsonlStorage sv.disk (sv.path c.out),
      Storage.fromState (Postgres.storage sv.database) store]).close := fun store =>
    (Storage.multi_clean fun s known => by
      rcases List.mem_pair.mp known with rfl | rfl
      · exact file
      · exact database store).close
  unfold openStorage
  mvcgen [schema, emit, ping, closed, fileOnly, withDatabase, Log.info]
  all_goals
    refine ⟨‹clean _›, ?_⟩
    rintro _ ⟨⟩
  all_goals
    apply Storage.multi_clean
    intro s known
    simp only [List.mem_append, List.mem_cons, List.not_mem_nil, or_false, or_assoc] at known
    rcases known with rfl | rfl | rfl
    all_goals first | exact file | exact database _ | exact publisher

omit h in
theorem resolveDecimals_keeps {f : Fetcher (StateM σ)} (reader : f.reader.Clean clean)
    (cache : TokenMetaCache) (token : Address) (configured : Int) :
    Keeps clean (resolveDecimals f cache token configured) := by
  have known := Fetcher.fetchTokenMeta_keeps reader quiet
  unfold resolveDecimals
  mvcgen [known]

omit h in
theorem closeSink_keeps {sink : Storage (StateM σ)} (clean_sink : sink.Clean clean) :
    Keeps clean (closeSink sink) := by
  have closed := clean_sink.close
  have emit := quiet.keeps_emit
  unfold closeSink
  mvcgen [closed, emit, Log.warn]

/-- A dry bot: its engine's collaborators and its sink keep the world clean, and it has
neither a submitter nor relays. -/
structure Bot.Dry (clean : σ → Prop) (b : Bot (StateM σ)) : Prop where
  engine : b.engine.Clean clean
  sink : b.sink.Clean clean
  submitter : b.engine.submitter = none
  relays : b.relays = []

omit [LogSink (StateM σ)] [Recorder (StateM σ)] quiet h in
theorem no_bot_of_failure {f : Failure} :
    ∀ b, (Except.error f : Outcome (Bot (StateM σ))) = .ok b → b.Dry clean :=
  fun _ none => nomatch none

omit [LogSink (StateM σ)] [Recorder (StateM σ)] quiet h in
theorem honest_of_dialled {q : σ} {t : Rpc.Transport (StateM σ)}
    (dialled : clean q ∧ ∀ t', (Except.ok t : Except String _) = .ok t' → t'.Honest clean) :
    t.Honest clean :=
  dialled.2 t rfl

theorem assemble_spec (c : Config) (dry : c.dryRun = true) (addrs : Addresses)
    (pools : AddressMap DexKind) (routers : AddressMap Address) (minProfitWei : Int)
    {client logs : Rpc.Transport (StateM σ)} (node : client.Honest clean)
    (follower : logs.Honest clean) (separate : Bool) (chainId : Nat) :
    ⦃fun q => ⌜clean q⌝⦄ assemble sv c addrs pools routers minProfitWei client logs separate chainId
      ⦃⇓ r q => ⌜clean q ∧ ∀ b, r = .ok b → b.Dry clean⌝⦄ := by
  have decimals := resolveDecimals_keeps quiet (f := ⟨Client.reader client, addrs.loan, addrs.quote⟩)
    (Client.reader_clean node)
  have opened := openStorage_spec quiet h c
  have emit := quiet.keeps_emit
  unfold assemble
  simp only [dry, ↓reduceIte]
  mvcgen [decimals, opened, emit, Log.info]
  all_goals and_intros
  any_goals
    first
    | exact ‹clean _›
    | exact (‹clean _ ∧ _›).1
    | exact no_bot_of_failure
  rintro _ ⟨⟩
  rename_i sink _ _ sinkSpec _ _ created _ _ _
  cases created
  have reader := Client.reader_clean node
  refine ⟨⟨reader, fun _ => Target.search_keeps quiet _ _, ?loans,
    fun _ context => selectFees_keeps quiet (Client.feeOracle_clean node) context _, sinkSpec.2 sink rfl, ?logs, h.clock⟩,
    sinkSpec.2 sink rfl, rfl, rfl⟩
  case logs =>
    rintro src ⟨⟩
    exact Client.logSource_clean follower
  case loans =>
    intro pools r gasPrice
    refine LoanSearch.findOptimal_keeps quiet (Simulator.netProfit_keeps quiet ?_ ?_) r gasPrice
    · intro leg a
      exact Quoter.quote_keeps (fun _ known => Option.some.inj known ▸ reader) leg (some a)
    · rintro est ⟨⟩ r a
      exact Estimator.estimateGas_keeps (fun msg => Keeps.run' (Client.estimateGas_keeps node msg) {})
        h.salt r (some a)

theorem build_spec (c : Config) (dry : c.dryRun = true) (follow : Bool) :
    ⦃fun q => ⌜clean q⌝⦄ build sv c follow ⦃⇓ r q => ⌜clean q ∧ ∀ b, r = .ok b → b.Dry clean⌝⦄ := by
  have dialled := Chain.dial_spec h.network
  have chain := fun t : Rpc.Transport (StateM σ) =>
    triple_with_fact fun node : t.Honest clean =>
      show Keeps clean (Client.once (Client.chainId t)) from Keeps.run' (Client.chainId_keeps node) {}
  have assembled := fun addrs pools routers minProfitWei (client logs : Rpc.Transport (StateM σ))
      separate chainId =>
    triple_with_fact fun honest : client.Honest clean ∧ logs.Honest clean =>
      assemble_spec quiet h c dry addrs pools routers minProfitWei honest.1 honest.2 separate chainId
  unfold build
  mvcgen -trivial [dialled, chain, assembled]
  all_goals and_intros
  all_goals
    first
    | exact ‹clean _›
    | exact (‹clean _ ∧ _›).1
    | exact honest_of_dialled ‹_›
    | exact no_bot_of_failure

omit h in
theorem scanOnce_keeps (c : Config) {bot : Bot (StateM σ)} (dry : bot.Dry clean) :
    Keeps clean (scanOnce c bot) := by
  have boot := Engine.bootstrap_keeps quiet dry.engine
  have evaluated := Engine.evaluate_keeps quiet dry.engine (Or.inr dry.submitter) (Keeps.pure none)
  have emit := quiet.keeps_emit
  unfold scanOnce
  refine Keeps.bind (Keeps.run ?_ bot.state) fun _ => ?_
  · mvcgen [boot, evaluated]
  · mvcgen [emit, Log.info] invariants
    · ⇓ _ q => ⌜clean q⌝

theorem perform_scan_keeps (setLevel : Level → StateM σ Unit) (levels : ∀ l, Keeps clean (setLevel l))
    (env : List (String × String)) (rounds : Nat) (flags : List Cli.Flag) :
    Keeps clean (perform sv env setLevel rounds .scan flags) := by
  unfold perform
  refine Keeps.bind (loadConfig_keeps h env flags) fun loaded => ?_
  rcases loaded with f | c
  · exact Keeps.pure _
  · simp only [pure_bind, beq_self_eq_true, ↓reduceIte]
    cases settled : settle { c with dryRun := true } with
    | error f => exact Keeps.pure _
    | ok r =>
      obtain ⟨c', level⟩ := r
      have dry : c'.dryRun = true := by rw [settle_config settled]
      -- Applied without their explicit arguments, these lemmas would have the elaborator unfold the
      -- triple of the build it expects, which runs the whole build symbolically.
      refine @Keeps.bind _ _ _ _ _ _ (levels level) fun _ =>
        @Keeps.bind_of _ _ _ _ _ _ _ (@build_spec _ _ _ _ _ quiet h c' dry false) fun built ready => ?_
      rcases built with f | bot
      · exact Keeps.pure _
      · have scanned := @scanOnce_keeps _ _ _ _ quiet c' bot (ready bot rfl)
        have closed := closeSink_keeps quiet (ready bot rfl).sink
        exact @Keeps.bind _ _ _ _ _ _ scanned fun result =>
          @Keeps.bind _ _ _ _ _ _ closed fun _ => Keeps.pure result

theorem commandLine_keeps (setLevel : Level → StateM σ Unit) (levels : ∀ l, Keeps clean (setLevel l))
    (env : List (String × String)) (rounds : Nat) (args : List String)
    (notRun : ∀ flags rest, Cli.execute program args ≠ .perform .run flags rest) :
    Keeps clean (runCommandLine sv env setLevel rounds args) := by
  unfold runCommandLine
  cases verdict : Cli.execute program args with
  | finished out err status => exact Keeps.pure _
  | perform task flags rest =>
    cases task with
    | run => exact absurd verdict (notRun flags rest)
    | scan =>
      refine @Keeps.bind _ _ _ _ _ _ (perform_scan_keeps quiet h setLevel levels env rounds flags)
        fun r => ?_
      rcases r with f | ⟨⟩ <;> exact Keeps.pure _

/-- A scan never transacts. -/
theorem scan_never_transacts (setLevel : Level → StateM σ Unit)
    (levels : ∀ l, Keeps clean (setLevel l)) (env : List (String × String)) (rounds : Nat) :
    (∀ args, (∀ flags rest, Cli.execute program args ≠ .perform .run flags rest) →
      Keeps clean (runCommandLine sv env setLevel rounds args)) ∧
    (∀ c follow, c.dryRun = true →
      ⦃fun q => ⌜clean q⌝⦄ build sv c follow ⦃⇓ r q => ⌜clean q ∧ ∀ b, r = .ok b → b.Dry clean⌝⦄) ∧
    (∀ e : Engine (StateM σ), e.Clean clean → (e.config.dryRun = true ∨ e.submitter = none) →
      ∀ ended, Keeps clean ended → KeepsT clean (e.evaluate ended)) :=
  ⟨fun args notRun => @commandLine_keeps _ _ _ _ _ quiet h setLevel levels env rounds args notRun,
   fun c follow dry => @build_spec _ _ _ _ _ quiet h c dry follow,
   fun e engine dry _ context => @Engine.evaluate_keeps _ _ _ _ e quiet engine dry _ context⟩

end Scan

open Scripted in
/-- The recorded host meets every condition of the scan's safety, with the node's received
requests as the world. -/
theorem scan_never_transacts_recorded :
    Quiet World.Untransacted ∧ (hostServices homeDir {}).Clean World.Untransacted ∧
      (∀ l, Keeps World.Untransacted (keepLevel l)) ∧
      ((∀ args, (∀ flags rest, Cli.execute program args ≠ .perform .run flags rest) →
          Keeps World.Untransacted
            (runCommandLine (hostServices homeDir {}) [] keepLevel followRounds args)) ∧
        (∀ c follow, c.dryRun = true →
          ⦃fun q => ⌜q.Untransacted⌝⦄ build (hostServices homeDir {}) c follow
          ⦃⇓ r q => ⌜q.Untransacted ∧ ∀ b, r = .ok b → b.Dry World.Untransacted⌝⦄) ∧
        (∀ e : Engine ScriptM, e.Clean World.Untransacted →
          (e.config.dryRun = true ∨ e.submitter = none) →
            ∀ ended, Keeps World.Untransacted ended →
              KeepsT World.Untransacted (e.evaluate ended))) :=
  ⟨world_quiet, hostServices_clean homeDir {}, keepLevel_keeps,
    scan_never_transacts world_quiet (hostServices_clean homeDir {}) keepLevel keepLevel_keeps []
      followRounds⟩

open Scripted in
theorem recorded_commandLine_untransacted (script : RpcScript) (files : List (String × String))
    (env : List (String × String)) (args : List String)
    (notRun : ∀ flags rest, Cli.execute program args ≠ .perform .run flags rest) :
    ((runCommandLine (hostServices homeDir (workingFiles files)) env keepLevel followRounds args).run
      { node := { script }, files := workingFiles files }).run.2.Untransacted := by
  have kept := @commandLine_keeps _ _ _ _ _ world_quiet (hostServices_clean homeDir (workingFiles files))
    keepLevel keepLevel_keeps env followRounds args notRun
  exact run_of_triple kept _ fun _ received => nomatch received

end App

end FlashArb
