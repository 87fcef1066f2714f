import FlashArb.Chain.Rlp
import FlashArb.Chain.Address
import FlashArb.Crypto.Secp256k1

/-! A transaction of type 2 with a tip cap and a fee cap per gas. -/
namespace FlashArb

/-- An unsigned dynamic-fee transaction. -/
structure DynamicFeeTx where
  chainId : Nat
  nonce : Nat
  tipCap : Nat
  feeCap : Nat
  gas : Nat
  target : Option Address
  value : Nat := 0
  data : Bytes := []

namespace DynamicFeeTx

def txType : UInt8 := 2

def fields (tx : DynamicFeeTx) : List Rlp :=
  [Rlp.num tx.chainId, Rlp.num tx.nonce, Rlp.num tx.tipCap, Rlp.num tx.feeCap, Rlp.num tx.gas,
    .str (match tx.target with | some a => a.bytes | none => []), Rlp.num tx.value, .str tx.data,
    .list []]

def signingHash (tx : DynamicFeeTx) : Bytes :=
  Keccak.hash (txType :: Rlp.encode (.list tx.fields))

def encodeSigned (tx : DynamicFeeTx) (sig : Secp256k1.Signature) : Bytes :=
  txType :: Rlp.encode (.list (tx.fields ++ [Rlp.num (sig.recovery % 2), Rlp.num sig.r, Rlp.num sig.s]))

def sign (tx : DynamicFeeTx) (secret : Nat) : Option Bytes :=
  (Secp256k1.sign secret tx.signingHash).map tx.encodeSigned

end DynamicFeeTx

def txHash (raw : Bytes) : Hash := Hash.keccak raw

def addressOfSecret (secret : Nat) : Address :=
  Address.ofBytes ((Keccak.hash (Secp256k1.publicKey secret)).drop 12)

end FlashArb
