import FlashArb.Chain.Wire
import FlashArb.Chain.EventLog

/-! A log requires its address, topics, data and transaction hash; its block, index and removal mark
are optional. -/
namespace FlashArb

namespace EventLog

/-- The fields of a log as they are read. -/
structure Fields where
  address : Option Address := none
  topics : Option (List Hash) := none
  data : Option Bytes := none
  block : Option Nat := none
  txHash : Option Hash := none
  txIndex : Option Nat := none
  blockHash : Option Hash := none
  index : Option Nat := none
  removed : Option Bool := none

/-- The reader of each member, by the member's name. -/
def field (key : String) : Option (String × (Fields → Json → Except Wire.Fault Fields)) :=
  let names := ["address", "topics", "data", "blockNumber", "transactionHash",
    "transactionIndex", "blockHash", "logIndex", "removed"]
  (Wire.matchName names key).map fun name =>
    (name, fun (f : Fields) (j : Json) => match name with
      | "address" => (fun v => { f with address := some v }) <$> Wire.address j
      | "topics" => (fun v => { f with topics := some v }) <$> Wire.list "[]common.Hash" Wire.hash j
      | "data" => (fun v => { f with data := some v }) <$> Wire.data j
      | "blockNumber" => (fun v => { f with block := some v }) <$> Wire.word64 j
      | "transactionHash" => (fun v => { f with txHash := some v }) <$> Wire.hash j
      | "transactionIndex" => (fun v => { f with txIndex := some v }) <$> Wire.word j
      | "blockHash" => (fun v => { f with blockHash := some v }) <$> Wire.hash j
      | "logIndex" => (fun v => { f with index := some v }) <$> Wire.word j
      | _ => (fun v => { f with removed := some v }) <$> Wire.bool j)

/-- Reads a log. -/
def ofWire (j : Json) : Except Wire.Fault EventLog := do
  let f ← Wire.record "Log" "types.Log" {} field j
  let address ← Wire.require "address" "Log" f.address
  let topics ← Wire.require "topics" "Log" f.topics
  let data ← Wire.require "data" "Log" f.data
  let txHash ← Wire.require "transactionHash" "Log" f.txHash
  return { address, topics, data, block := (f.block.getD 0).toUInt64, txHash,
           index := f.index.getD 0, removed := f.removed.getD false }

/-- A log as a node writes it: in a block of zero hash, at transaction index 0. -/
def toWire (l : EventLog) : Json :=
  .obj [("address", Wire.addressJson l.address), ("topics", .arr (l.topics.map Wire.hashJson)),
    ("data", Wire.dataJson l.data), ("blockNumber", Wire.quantityJson l.block.toNat),
    ("transactionHash", Wire.hashJson l.txHash), ("transactionIndex", Wire.quantityJson 0),
    ("blockHash", Wire.hashJson Hash.zero), ("logIndex", Wire.quantityJson l.index),
    ("removed", .bool l.removed)]

end EventLog

/-- What a client keeps of a transaction receipt. -/
structure TxReceipt where
  status : Nat
  block : Nat
  gasUsed : Nat
  txHash : Hash
  logs : Nat

namespace TxReceipt

/-- The fields of a receipt as they are read. -/
structure Fields where
  status : Option Nat := none
  cumulativeGasUsed : Option Nat := none
  bloom : Option Bytes := none
  logs : Option (List (Option EventLog)) := none
  txHash : Option Hash := none
  gasUsed : Option Nat := none
  block : Option Nat := none

def logItem : Json → Except Wire.Fault (Option EventLog)
  | .null => .ok none
  | j => some <$> EventLog.ofWire j

/-- The reader of each member, by the member's name. -/
def field (key : String) : Option (String × (Fields → Json → Except Wire.Fault Fields)) :=
  let names := ["type", "root", "status", "cumulativeGasUsed", "logsBloom", "logs",
    "transactionHash", "contractAddress", "gasUsed", "effectiveGasPrice", "blobGasUsed",
    "blobGasPrice", "blockHash", "blockNumber", "transactionIndex"]
  (Wire.matchName names key).map fun name =>
    (name, fun (f : Fields) (j : Json) => match name with
      | "type" => (fun _ => f) <$> Wire.word64 j
      | "root" => (fun _ => f) <$> Wire.data j
      | "status" => (fun v => { f with status := some v }) <$> Wire.word64 j
      | "cumulativeGasUsed" => (fun v => { f with cumulativeGasUsed := some v }) <$> Wire.word64 j
      | "logsBloom" => (fun v => { f with bloom := some v }) <$> Wire.fixedFromText 256 "Bloom" "types.Bloom" j
      | "logs" => (fun v => { f with logs := some v }) <$> Wire.list "[]*types.Log" logItem j
      | "transactionHash" => (fun v => { f with txHash := some v }) <$> Wire.hash j
      | "contractAddress" => (fun _ => f) <$> Wire.address j
      | "gasUsed" => (fun v => { f with gasUsed := some v }) <$> Wire.word64 j
      | "effectiveGasPrice" => (fun _ => f) <$> Wire.big j
      | "blobGasUsed" => (fun _ => f) <$> Wire.word64 j
      | "blobGasPrice" => (fun _ => f) <$> Wire.big j
      | "blockHash" => (fun _ => f) <$> Wire.hash j
      | "blockNumber" => (fun v => { f with block := some v }) <$> Wire.big j
      | _ => (fun _ => f) <$> Wire.word j)

/-- Reads a receipt. -/
def ofWire (j : Json) : Except Wire.Fault TxReceipt := do
  let f ← Wire.record "Receipt" "types.Receipt" {} field j
  let _ ← Wire.require "cumulativeGasUsed" "Receipt" f.cumulativeGasUsed
  let _ ← Wire.require "logsBloom" "Receipt" f.bloom
  let logs ← Wire.require "logs" "Receipt" f.logs
  let txHash ← Wire.require "transactionHash" "Receipt" f.txHash
  let gasUsed ← Wire.require "gasUsed" "Receipt" f.gasUsed
  return { status := f.status.getD 0, block := f.block.getD 0, gasUsed, txHash,
           logs := logs.length }

end TxReceipt

end FlashArb
