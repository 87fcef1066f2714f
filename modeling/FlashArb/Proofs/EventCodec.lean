import Mathlib
import FlashArb.Dex.Events
import FlashArb.Proofs.AbiReading
import FlashArb.Proofs.KeccakConstants

/-! The decoder knows five events by their first topic, the Keccak-256 hash of the signature. -/
namespace FlashArb

namespace Hash

theorem beq_eq (a b : Hash) : (a == b) = (a.toNat == b.toNat) := by
  rcases a with ⟨a, ha⟩
  rcases b with ⟨b, hb⟩
  simp

theorem eq_iff (a b : Hash) : a = b ↔ a.toNat = b.toNat := by
  rcases a with ⟨a, ha⟩
  rcases b with ⟨b, hb⟩
  simp

theorem toNat_ofNat (n : Nat) : (Hash.ofNat n).toNat = n % 2 ^ 256 := rfl

@[simp] theorem length_bytes (h : Hash) : h.bytes.length = 32 := Bytes.length_ofNat 32 h.toNat

theorem wordAt_bytes (h : Hash) : Abi.wordAt h.bytes 0 = h.toNat := by
  rw [Abi.wordAt, Hash.bytes, Bytes.slice, List.drop_zero, List.take_of_length_le (by simp),
    Bytes.toNat_ofNat, Nat.mod_eq_of_lt (by simpa using h.isLt)]

theorem decodeAt_bytes {t : Abi.Ty} (plain : t.isPlainWord = true) (h : Hash) :
    Abi.decodeAt t 0 h.bytes = .ok (t.readWord h.toNat) := by
  rw [Abi.decodeAt_plainWord plain (by simp), wordAt_bytes]

theorem decodeAt_bool_bytes (h : Hash) : Abi.decodeAt .bool 0 h.bytes = Abi.readBool h.toNat := by
  rw [Abi.decodeAt_bool (by simp), wordAt_bytes]

end Hash

/-- The topic of an indexed address argument: the address as a number. -/
def Address.topic (a : Address) : Hash := Hash.ofNat a.toNat

@[simp] theorem Address.toNat_topic (a : Address) : a.topic.toNat = a.toNat :=
  Nat.mod_eq_of_lt (Address.toNat_lt_word a)

theorem canDecode_iff (t : Hash) :
    canDecode t = true ↔
      t = Topic.concentratedSwap ∨ t = Topic.productSwap ∨ t = Topic.sync ∨
        t = Topic.concentratedPoolCreated ∨ t = Topic.productPoolCreated := by
  simp [canDecode, Topic.pool, Topic.factory, or_assoc]

namespace PoolEvent

/-- The event a log tells of a pool. -/
def ofLog (l : EventLog) (pool : Address) (body : EventBody) : PoolEvent :=
  { pool, block := l.block, txHash := l.txHash, logIndex := l.index, body }

theorem decode_nil {l : EventLog} (h : l.topics = []) :
    decode l = .error (Failure.plain "missing topics") := by
  simp only [decode, h]
  rfl

theorem decode_unknown {l : EventLog} {t0 : Hash} {rest : List Hash} (h : l.topics = t0 :: rest)
    (unknown : canDecode t0 = false) :
    decode l = .error (Failure.plain ("unsupported topic0: " ++ t0.hex)) := by
  simp only [decode, h, unknown]
  rfl

theorem decode_known {l : EventLog} {t0 : Hash} {rest : List Hash} (h : l.topics = t0 :: rest)
    (known : canDecode t0 = true) :
    decode l = (fun p : Address × EventBody => ofLog l p.1 p.2) <$> read l t0 := by
  simp only [decode, h, known]
  cases read l t0 <;> rfl

theorem indexedTopics_of_length_ne {count : Nat} {topics : List Hash}
    (h : topics.length ≠ count + 1) :
    indexedTopics count topics = .error (Failure.plain
      ("expected " ++ toString (count + 1) ++ " topics, got " ++ toString topics.length)) := by
  simp [indexedTopics, h]

theorem indexedTopics_of_length_eq {count : Nat} {topics : List Hash}
    (h : topics.length = count + 1) : indexedTopics count topics = .ok topics.tail := by
  simp [indexedTopics, h]

theorem tickOf_of_range {v : Int} (lo : -2 ^ 23 ≤ v) (hi : v < 2 ^ 23) : tickOf v = .ok v := by
  have inside : (decide (v < -(2 ^ 23 : Int)) || decide (v > 2 ^ 23 - 1)) = false := by
    simp only [Bool.or_eq_false_iff, decide_eq_false_iff_not]
    omega
  simp only [tickOf, inside, Bool.false_eq_true, if_false]

theorem read_of_topics_length_ne {l : EventLog} {t0 : Hash} {count : Nat}
    (kind : (t0, count) ∈ [(Topic.concentratedSwap, 2), (Topic.productSwap, 2),
      (Topic.concentratedPoolCreated, 3), (Topic.productPoolCreated, 3)])
    (h : l.topics.length ≠ count + 1) :
    read l t0 = .error (Failure.plain
      ("expected " ++ toString (count + 1) ++ " topics, got " ++ toString l.topics.length)) := by
  simp only [List.mem_cons, Prod.mk.injEq, List.not_mem_nil, or_false] at kind
  rcases kind with ⟨rfl, rfl⟩ | ⟨rfl, rfl⟩ | ⟨rfl, rfl⟩ | ⟨rfl, rfl⟩ <;>
  simp only [read, Hash.beq_eq, Topic.concentratedSwap_toNat, Topic.productSwap_toNat,
    Topic.sync_toNat, Topic.concentratedPoolCreated_toNat, Topic.productPoolCreated_toNat,
    Nat.reduceBEq, Bool.false_eq_true, if_false, if_true, indexedTopics_of_length_ne h] <;> rfl

theorem read_sync_topics (l : EventLog) (topics : List Hash) :
    read { l with topics } Topic.sync = read l Topic.sync := by
  simp only [read, Hash.beq_eq, Topic.concentratedSwap_toNat, Topic.productSwap_toNat,
    Topic.sync_toNat, Nat.reduceBEq, Bool.false_eq_true, if_false, if_true]

theorem decode_sync_topics {l : EventLog} {rest : List Hash} (h : l.topics = Topic.sync :: rest) :
    decode l = decode { l with topics := [Topic.sync] } := by
  have known : canDecode Topic.sync = true := (canDecode_iff _).2 (by simp)
  have same : ∀ p b, ofLog { l with topics := [Topic.sync] } p b = ofLog l p b := fun _ _ => rfl
  rw [decode_known h known, decode_known (l := { l with topics := [Topic.sync] }) rfl known]
  simp only [same, read_sync_topics]

theorem decode_sync {l : EventLog} {r0 r1 : Nat} (topics : l.topics = [Topic.sync])
    (data : l.data = Abi.encodeArgs [.uint r0, .uint r1]) :
    decode l = .ok (ofLog l l.address (.sync (r0 % 2 ^ 256) (r1 % 2 ^ 256))) := by
  have words : l.data = [r0, r1].flatMap Abi.word := by
    rw [data]
    simp [Abi.encodeArgs, Abi.encodeParts, Abi.Value.encode, Abi.Value.isDynamic, Abi.assemble]
  have values := Abi.decodeArgs_plainWords [.uint 256, .uint 256] [r0, r1] (by decide) rfl
    (by simp)
  rw [decode_known topics ((canDecode_iff _).2 (by simp))]
  simp only [read, Hash.beq_eq, Topic.concentratedSwap_toNat, Topic.productSwap_toNat,
    Topic.sync_toNat, Nat.reduceBEq, Bool.false_eq_true, if_false, if_true, readData, words,
    values, List.zipWith_cons_cons, List.zipWith_nil_left, Abi.Ty.readWord, lift]
  rfl

theorem decode_concentratedSwap {l : EventLog} {sender recipient : Hash}
    {amount0 amount1 tick : Int} {sqrtPrice liquidity : Nat}
    (topics : l.topics = [Topic.concentratedSwap, sender, recipient])
    (data : l.data =
      Abi.encodeArgs [.int amount0, .int amount1, .uint sqrtPrice, .uint liquidity, .int tick])
    (lo : -2 ^ 23 ≤ tick) (hi : tick < 2 ^ 23) :
    decode l = .ok (ofLog l l.address (.concentratedSwap (sqrtPrice % 2 ^ 256) tick)) := by
  have words : l.data = [(amount0 % 2 ^ 256).toNat, (amount1 % 2 ^ 256).toNat, sqrtPrice,
      liquidity, (tick % 2 ^ 256).toNat].flatMap Abi.word := by
    rw [data]
    simp [Abi.encodeArgs, Abi.encodeParts, Abi.Value.encode, Abi.Value.isDynamic, Abi.assemble,
      Abi.intWord]
  have values := Abi.decodeArgs_plainWords [.int 256, .int 256, .uint 160, .uint 128, .int 24]
    [(amount0 % 2 ^ 256).toNat, (amount1 % 2 ^ 256).toNat, sqrtPrice, liquidity,
      (tick % 2 ^ 256).toNat] (by decide) rfl (by simp)
  have tickWord : Abi.signed ((tick % 2 ^ 256).toNat % 2 ^ 256) = tick := by
    rw [Nat.mod_eq_of_lt (by omega)]
    exact Abi.signed_toNat_emod tick (by omega) (by omega)
  rw [decode_known topics ((canDecode_iff _).2 (by simp))]
  simp only [read, Hash.beq_eq, Topic.concentratedSwap_toNat, Nat.reduceBEq, if_true,
    indexedTopics_of_length_eq (show l.topics.length = 2 + 1 by simp [topics]), readData, words,
    values, List.zipWith_cons_cons, List.zipWith_nil_left, Abi.Ty.readWord, lift, tickWord,
    List.getD_cons_succ, List.getD_cons_zero, intOf, tickOf_of_range lo hi, bind, Except.bind]
  rfl

theorem decode_concentratedPoolCreated {l : EventLog} {token0 token1 pool : Address}
    {fee : UInt32} {tickSpacing : Int}
    (topics : l.topics =
      [Topic.concentratedPoolCreated, token0.topic, token1.topic, Hash.ofNat fee.toNat])
    (data : l.data = Abi.encodeArgs [.int tickSpacing, .address pool]) :
    decode l =
      .ok (ofLog l pool (.poolCreated l.address .concentrated token0 token1 (some fee) none)) := by
  have words : l.data = [(tickSpacing % 2 ^ 256).toNat, pool.toNat].flatMap Abi.word := by
    rw [data]
    simp [Abi.encodeArgs, Abi.encodeParts, Abi.Value.encode, Abi.Value.isDynamic, Abi.assemble,
      Abi.intWord]
  have values := Abi.decodeArgs_plainWords [.int 24, .address]
    [(tickSpacing % 2 ^ 256).toNat, pool.toNat] (by decide) rfl (by simp)
  have feeWord : (Hash.ofNat fee.toNat).toNat = fee.toNat := by
    rw [Hash.toNat_ofNat, Nat.mod_eq_of_lt (lt_trans fee.toNat_lt (by norm_num))]
  have feeBits : fee.toNat % 2 ^ 32 = fee.toNat := Nat.mod_eq_of_lt fee.toNat_lt
  have tail : indexedTopics 3 l.topics =
      .ok [token0.topic, token1.topic, Hash.ofNat fee.toNat] := by
    rw [indexedTopics_of_length_eq (by simp [topics]), topics, List.tail_cons]
  have ix : readTopics [.address, .address, .uint 24]
      [token0.topic, token1.topic, Hash.ofNat fee.toNat] =
        .ok [.address token0, .address token1, .uint fee.toNat] := by
    simp only [readTopics, List.zip_cons_cons, List.zip_nil_left, List.mapM_cons, List.mapM_nil,
      Hash.decodeAt_bytes (t := .address) rfl, Hash.decodeAt_bytes (t := .uint 24) rfl,
      Abi.Ty.readWord, Address.toNat_topic, Address.ofNat_toNat, feeWord, lift, bind, Except.bind,
      pure, Except.pure]
  rw [decode_known topics ((canDecode_iff _).2 (by simp))]
  simp only [read, Hash.beq_eq, Topic.concentratedSwap_toNat, Topic.productSwap_toNat,
    Topic.sync_toNat, Topic.concentratedPoolCreated_toNat, Nat.reduceBEq, Bool.false_eq_true,
    if_false, if_true, tail, ix, readData, words, values, List.zipWith_cons_cons,
    List.zipWith_nil_left, Abi.Ty.readWord, lift, List.getD_cons_succ, List.getD_cons_zero,
    natOf, addressOf, Nat.mod_eq_of_lt (Address.toNat_lt_word pool), Address.ofNat_toNat, feeBits,
    UInt32.ofNat_toNat, bind, Except.bind]
  rfl

theorem decode_productPoolCreated {l : EventLog} {token0 token1 pool : Address} {stable : Bool}
    {n : Nat}
    (topics : l.topics = [Topic.productPoolCreated, token0.topic, token1.topic,
      Hash.ofNat (if stable then 1 else 0)])
    (data : l.data = Abi.encodeArgs [.address pool, .uint n]) :
    decode l = .ok (ofLog l pool (.poolCreated l.address (if stable then .stable else .volatile)
      token0 token1 none (some stable))) := by
  have words : l.data = [pool.toNat, n].flatMap Abi.word := by
    rw [data]
    simp [Abi.encodeArgs, Abi.encodeParts, Abi.Value.encode, Abi.Value.isDynamic, Abi.assemble]
  have values := Abi.decodeArgs_plainWords [.address, .uint 256] [pool.toNat, n] (by decide) rfl
    (by simp)
  have flag : Abi.readBool (Hash.ofNat (if stable then 1 else 0)).toNat = .ok (.bool stable) := by
    cases stable <;> rfl
  have tail : indexedTopics 3 l.topics =
      .ok [token0.topic, token1.topic, Hash.ofNat (if stable then 1 else 0)] := by
    rw [indexedTopics_of_length_eq (by simp [topics]), topics, List.tail_cons]
  have ix : readTopics [.address, .address, .bool]
      [token0.topic, token1.topic, Hash.ofNat (if stable then 1 else 0)] =
        .ok [.address token0, .address token1, .bool stable] := by
    simp only [readTopics, List.zip_cons_cons, List.zip_nil_left, List.mapM_cons, List.mapM_nil,
      Hash.decodeAt_bytes (t := .address) rfl, Hash.decodeAt_bool_bytes, flag, Abi.Ty.readWord,
      Address.toNat_topic, Address.ofNat_toNat, lift, bind, Except.bind, pure, Except.pure]
  rw [decode_known topics ((canDecode_iff _).2 (by simp))]
  simp only [read, Hash.beq_eq, Topic.concentratedSwap_toNat, Topic.productSwap_toNat,
    Topic.sync_toNat, Topic.concentratedPoolCreated_toNat, Topic.productPoolCreated_toNat,
    Nat.reduceBEq, Bool.false_eq_true, if_false, tail, ix, readData, words, values,
    List.zipWith_cons_cons, List.zipWith_nil_left, Abi.Ty.readWord, lift, List.getD_cons_succ,
    List.getD_cons_zero, addressOf, boolOf, Nat.mod_eq_of_lt (Address.toNat_lt_word pool),
    Address.ofNat_toNat, bind, Except.bind]
  rfl

end PoolEvent

/-- Decoding pool and factory events. -/
theorem pool_events_decode_as_encoded (l : EventLog) :
    (∀ t : Hash, canDecode t = true ↔
      t.toNat ∈ [0xc42079f94a6350d7e6235f29174924f928cc2ac818eb64fed8004e115fbcca67,
        0xb3e2773606abfd36b5bd91394b3a54d1398336c65005baf7bf7a05efeffaf75b,
        0xcf2aa50876cdfbb541206f89af0ee78d44a2abf8d328e37fa4917f982149848a,
        0x783cca1c0412dd0d695e784568c96da2e9c22ff989357a2e8b1d9b2b4e6b7118,
        0x2128d88d14c80cb081c1252a5acff7a264671bf199ce226b53788fb26065005e]) ∧
    (l.topics = [] → PoolEvent.decode l = .error (Failure.plain "missing topics")) ∧
    (∀ (t0 : Hash) (rest : List Hash), l.topics = t0 :: rest →
      canDecode t0 = false →
      PoolEvent.decode l = .error (Failure.plain ("unsupported topic0: " ++ t0.hex))) ∧
    (∀ (t0 : Hash) (rest : List Hash) (count : Nat), l.topics = t0 :: rest →
      (t0, count) ∈ [(Topic.concentratedSwap, 2), (Topic.productSwap, 2),
        (Topic.concentratedPoolCreated, 3), (Topic.productPoolCreated, 3)] →
      rest.length ≠ count →
      PoolEvent.decode l = .error (Failure.plain
        ("expected " ++ toString (count + 1) ++ " topics, got " ++ toString (rest.length + 1)))) ∧
    (∀ rest : List Hash, l.topics = Topic.sync :: rest →
      PoolEvent.decode l = PoolEvent.decode { l with topics := [Topic.sync] }) ∧
    (∀ (sender recipient : Hash) (amount0 amount1 tick : Int) (sqrtPrice liquidity : Nat),
      l.topics = [Topic.concentratedSwap, sender, recipient] →
      l.data = Abi.encodeArgs
        [.int amount0, .int amount1, .uint sqrtPrice, .uint liquidity, .int tick] →
      sqrtPrice < 2 ^ 256 → -2 ^ 23 ≤ tick → tick < 2 ^ 23 →
      PoolEvent.decode l =
        .ok (PoolEvent.ofLog l l.address (.concentratedSwap sqrtPrice tick))) ∧
    (∀ reserve0 reserve1 : Nat, l.topics = [Topic.sync] →
      l.data = Abi.encodeArgs [.uint reserve0, .uint reserve1] →
      reserve0 < 2 ^ 256 → reserve1 < 2 ^ 256 →
      PoolEvent.decode l = .ok (PoolEvent.ofLog l l.address (.sync reserve0 reserve1))) ∧
    (∀ (token0 token1 pool : Address) (fee : UInt32) (tickSpacing : Int),
      l.topics = [Topic.concentratedPoolCreated, token0.topic, token1.topic,
        Hash.ofNat fee.toNat] →
      l.data = Abi.encodeArgs [.int tickSpacing, .address pool] →
      PoolEvent.decode l = .ok (PoolEvent.ofLog l pool
        (.poolCreated l.address .concentrated token0 token1 (some fee) none))) ∧
    ∀ (token0 token1 pool : Address) (stable : Bool) (n : Nat),
      l.topics = [Topic.productPoolCreated, token0.topic, token1.topic,
        Hash.ofNat (if stable then 1 else 0)] →
      l.data = Abi.encodeArgs [.address pool, .uint n] →
      PoolEvent.decode l = .ok (PoolEvent.ofLog l pool (.poolCreated l.address
        (if stable then .stable else .volatile) token0 token1 none (some stable))) := by
  refine ⟨?known, PoolEvent.decode_nil, fun t0 rest => PoolEvent.decode_unknown,
    ?counted, fun rest => PoolEvent.decode_sync_topics, ?swap, ?sync,
    fun token0 token1 pool fee tickSpacing => PoolEvent.decode_concentratedPoolCreated,
    fun token0 token1 pool stable n => PoolEvent.decode_productPoolCreated⟩
  case known =>
    intro t
    simp only [canDecode_iff, Hash.eq_iff, Topic.concentratedSwap_toNat, Topic.productSwap_toNat,
      Topic.sync_toNat, Topic.concentratedPoolCreated_toNat, Topic.productPoolCreated_toNat,
      List.mem_cons, List.not_mem_nil, or_false]
  case counted =>
    intro t0 rest count h kind short
    have known : canDecode t0 = true := by
      rw [canDecode_iff]
      simp only [List.mem_cons, Prod.mk.injEq, List.not_mem_nil, or_false] at kind
      rcases kind with ⟨rfl, -⟩ | ⟨rfl, -⟩ | ⟨rfl, -⟩ | ⟨rfl, -⟩ <;> simp
    have length : l.topics.length = rest.length + 1 := by simp [h]
    rw [PoolEvent.decode_known h known,
      PoolEvent.read_of_topics_length_ne kind (by omega), length]
    rfl
  case swap =>
    intro sender recipient amount0 amount1 tick sqrtPrice liquidity topics data price lo hi
    rw [PoolEvent.decode_concentratedSwap topics data lo hi, Nat.mod_eq_of_lt price]
  case sync =>
    intro reserve0 reserve1 topics data small0 small1
    rw [PoolEvent.decode_sync topics data, Nat.mod_eq_of_lt small0, Nat.mod_eq_of_lt small1]

/-- A Sync log of reserves 10 and 20 reads back as them. -/
theorem sync_reserves_read_back :
    PoolEvent.decode
        { address := Address.ofNat 0xbbbb, block := 7,
          topics := [Topic.sync], data := Abi.encodeArgs [.uint 10, .uint 20] } =
      .ok { pool := Address.ofNat 0xbbbb, block := 7, txHash := Hash.zero, logIndex := 0,
            body := .sync 10 20 } :=
  (pool_events_decode_as_encoded _).2.2.2.2.2.2.1 10 20 rfl rfl (by norm_num) (by norm_num)

/-- A Sync log with a second topic is not refused: it reads as the reserves of its data. -/
theorem sync_log_with_two_topics_decodes :
    PoolEvent.decode
        { address := Address.ofNat 0xbbbb000000000000000000000000000000000002,
          block := 7, txHash := Hash.ofNat 1, index := 3,
          topics := [Topic.sync, Hash.ofNat 1], data := Abi.encodeArgs [.uint 10, .uint 20] } =
      .ok { pool := Address.ofNat 0xbbbb000000000000000000000000000000000002, block := 7,
            txHash := Hash.ofNat 1, logIndex := 3, body := .sync 10 20 } := by
  rw [PoolEvent.decode_sync_topics rfl, @PoolEvent.decode_sync _ 10 20 rfl rfl,
    Nat.mod_eq_of_lt (show 10 < 2 ^ 256 by norm_num), Nat.mod_eq_of_lt (show 20 < 2 ^ 256 by norm_num)]
  rfl

end FlashArb
