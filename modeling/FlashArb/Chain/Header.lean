import FlashArb.Chain.Wire
import FlashArb.Chain.Rlp

/-! Block headers as a node reports them, and their hash. -/
namespace FlashArb

/-- A block header. -/
structure Header where
  parentHash : Hash
  uncleHash : Hash
  coinbase : Address := Address.zero
  root : Hash
  txHash : Hash
  receiptHash : Hash
  bloom : Bytes
  difficulty : Nat
  number : Nat
  gasLimit : Nat
  gasUsed : Nat
  time : Nat
  extra : Bytes
  mixDigest : Hash := Hash.zero
  nonce : Bytes := List.replicate 8 0
  baseFee : Option Nat := none
  withdrawalsHash : Option Hash := none
  blobGasUsed : Option Nat := none
  excessBlobGas : Option Nat := none
  parentBeaconRoot : Option Hash := none

namespace Header

/-- The fields as they are read, each perhaps absent. -/
structure Fields where
  parentHash : Option Hash := none
  uncleHash : Option Hash := none
  coinbase : Option Address := none
  root : Option Hash := none
  txHash : Option Hash := none
  receiptHash : Option Hash := none
  bloom : Option Bytes := none
  difficulty : Option Nat := none
  number : Option Nat := none
  gasLimit : Option Nat := none
  gasUsed : Option Nat := none
  time : Option Nat := none
  extra : Option Bytes := none
  mixDigest : Option Hash := none
  nonce : Option Bytes := none
  baseFee : Option Nat := none
  withdrawalsHash : Option Hash := none
  blobGasUsed : Option Nat := none
  excessBlobGas : Option Nat := none
  parentBeaconRoot : Option Hash := none

/-- The reader of each member, by the member's name. -/
def field (key : String) : Option (String × (Fields → Json → Except Wire.Fault Fields)) :=
  let names := ["parentHash", "sha3Uncles", "miner", "stateRoot", "transactionsRoot",
    "receiptsRoot", "logsBloom", "difficulty", "number", "gasLimit", "gasUsed", "timestamp",
    "extraData", "mixHash", "nonce", "baseFeePerGas", "withdrawalsRoot", "blobGasUsed",
    "excessBlobGas", "parentBeaconBlockRoot"]
  (Wire.matchName names key).map fun name =>
    (name, fun (f : Fields) (j : Json) => match name with
      | "parentHash" => (fun v => { f with parentHash := some v }) <$> Wire.hash j
      | "sha3Uncles" => (fun v => { f with uncleHash := some v }) <$> Wire.hash j
      | "miner" => (fun v => { f with coinbase := some v }) <$> Wire.address j
      | "stateRoot" => (fun v => { f with root := some v }) <$> Wire.hash j
      | "transactionsRoot" => (fun v => { f with txHash := some v }) <$> Wire.hash j
      | "receiptsRoot" => (fun v => { f with receiptHash := some v }) <$> Wire.hash j
      | "logsBloom" => (fun v => { f with bloom := some v }) <$> Wire.fixedFromText 256 "Bloom" "types.Bloom" j
      | "difficulty" => (fun v => { f with difficulty := some v }) <$> Wire.big j
      | "number" => (fun v => { f with number := some v }) <$> Wire.big j
      | "gasLimit" => (fun v => { f with gasLimit := some v }) <$> Wire.word64 j
      | "gasUsed" => (fun v => { f with gasUsed := some v }) <$> Wire.word64 j
      | "timestamp" => (fun v => { f with time := some v }) <$> Wire.word64 j
      | "extraData" => (fun v => { f with extra := some v }) <$> Wire.data j
      | "mixHash" => (fun v => { f with mixDigest := some v }) <$> Wire.hash j
      | "nonce" => (fun v => { f with nonce := some v }) <$> Wire.fixedFromText 8 "BlockNonce" "types.BlockNonce" j
      | "baseFeePerGas" => (fun v => { f with baseFee := some v }) <$> Wire.big j
      | "withdrawalsRoot" => (fun v => { f with withdrawalsHash := some v }) <$> Wire.hash j
      | "blobGasUsed" => (fun v => { f with blobGasUsed := some v }) <$> Wire.word64 j
      | "excessBlobGas" => (fun v => { f with excessBlobGas := some v }) <$> Wire.word64 j
      | _ => (fun v => { f with parentBeaconRoot := some v }) <$> Wire.hash j)

/-- Reads a header; the hashes, bloom, difficulty, number, gas, time and extra data are
required, in that order. -/
def ofJson (j : Json) : Except Wire.Fault Header := do
  let f ← Wire.record "Header" "types.Header" {} field j
  let req {α : Type} (name : String) (v : Option α) := Wire.require name "Header" v
  let parentHash ← req "parentHash" f.parentHash
  let uncleHash ← req "sha3Uncles" f.uncleHash
  let root ← req "stateRoot" f.root
  let txHash ← req "transactionsRoot" f.txHash
  let receiptHash ← req "receiptsRoot" f.receiptHash
  let bloom ← req "logsBloom" f.bloom
  let difficulty ← req "difficulty" f.difficulty
  let number ← req "number" f.number
  let gasLimit ← req "gasLimit" f.gasLimit
  let gasUsed ← req "gasUsed" f.gasUsed
  let time ← req "timestamp" f.time
  let extra ← req "extraData" f.extra
  return { parentHash, uncleHash, coinbase := f.coinbase.getD Address.zero, root, txHash,
           receiptHash, bloom, difficulty, number, gasLimit, gasUsed, time, extra,
           mixDigest := f.mixDigest.getD Hash.zero, nonce := f.nonce.getD (List.replicate 8 0),
           baseFee := f.baseFee, withdrawalsHash := f.withdrawalsHash,
           blobGasUsed := f.blobGasUsed, excessBlobGas := f.excessBlobGas,
           parentBeaconRoot := f.parentBeaconRoot }

/-- The serialised fields added by later forks: up to the last present one, an absent one
before it standing as an empty string. -/
def laterFields (h : Header) : List Rlp :=
  let items : List (Option Rlp) :=
    [h.baseFee.map Rlp.num, h.withdrawalsHash.map (fun x => .str x.bytes),
     h.blobGasUsed.map Rlp.num, h.excessBlobGas.map Rlp.num,
     h.parentBeaconRoot.map (fun x => .str x.bytes)]
  let kept := (items.reverse.dropWhile Option.isNone).reverse
  kept.map fun i => i.getD (.str [])

/-- The serialisation of a header. -/
def rlp (h : Header) : Rlp :=
  .list ([.str h.parentHash.bytes, .str h.uncleHash.bytes, .str h.coinbase.bytes,
    .str h.root.bytes, .str h.txHash.bytes, .str h.receiptHash.bytes, .str h.bloom,
    Rlp.num h.difficulty, Rlp.num h.number, Rlp.num h.gasLimit, Rlp.num h.gasUsed,
    Rlp.num h.time, .str h.extra, .str h.mixDigest.bytes, .str h.nonce] ++ laterFields h)

def hash (h : Header) : Hash := Hash.keccak (Rlp.encode h.rlp)

end Header

end FlashArb
