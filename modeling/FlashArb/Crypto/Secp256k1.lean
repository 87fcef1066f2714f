import FlashArb.Crypto.Sha256

/-! The curve `y² = x³ + 7` over the prime field of `p = 2^256 - 2^32 - 977`, with its generator of
prime order `n`. -/
namespace FlashArb.Secp256k1

def p : Nat := 2 ^ 256 - 2 ^ 32 - 977

def n : Nat := 0xFFFFFFFFFFFFFFFFFFFFFFFFFFFFFFFEBAAEDCE6AF48A03BBFD25E8CD0364141

def gx : Nat := 0x79BE667EF9DCBBAC55A06295CE870B07029BFCDB2DCE28D959F2815B16F81798
def gy : Nat := 0x483ADA7726A3C4655DA4FBFC0E1108A8FD17B448A68554199C47D08FFB10D4B8

/-- `b ^ e mod m`, by squaring over the bits of `e`. -/
def powMod (b e m : Nat) : Nat :=
  go (b % m) e 1 (e.log2 + 1)
where
  go (base exp acc : Nat) : Nat → Nat
    | 0 => acc % m
    | k + 1 => go (base * base % m) (exp / 2) (if exp % 2 == 1 then acc * base % m else acc) k

def invMod (a m : Nat) : Nat := powMod a (m - 2) m

/-- A point of the curve: the point at infinity or a point with affine coordinates. -/
inductive Point where
  | infinity
  | affine (x y : Nat)
deriving DecidableEq, Inhabited

def generator : Point := .affine gx gy

def fsub (a b : Nat) : Nat := (a + p - b % p) % p

/-- The sum of two points. -/
def add : Point → Point → Point
  | .infinity, q => q
  | q, .infinity => q
  | .affine x1 y1, .affine x2 y2 =>
    if x1 == x2 then
      if (y1 + y2) % p == 0 then .infinity
      else
        let l := 3 * x1 * x1 % p * invMod (2 * y1 % p) p % p
        let x3 := fsub (l * l % p) (2 * x1 % p)
        .affine x3 (fsub (l * fsub x1 x3 % p) y1)
    else
      let l := fsub y2 y1 * invMod (fsub x2 x1) p % p
      let x3 := fsub (fsub (l * l % p) x1) x2
      .affine x3 (fsub (l * fsub x1 x3 % p) y1)

def mul (k : Nat) (q : Point) : Point :=
  (List.range (k.log2 + 1)).reverse.foldl (fun acc i =>
    let d := add acc acc
    if k.testBit i then add d q else d) .infinity

def publicKey (secret : Nat) : Bytes :=
  match mul secret generator with
  | .affine x y => Bytes.ofNat 32 x ++ Bytes.ofNat 32 y
  | .infinity => []

/-- The deterministic nonce candidates of RFC 6979 for a key and a message hash, the first
`count` of them. -/
def nonces (secret : Nat) (digest : Bytes) (count : Nat) : List Nat :=
  let x := Bytes.ofNat 32 secret
  let h := Bytes.ofNat 32 (Bytes.toNat digest % n)
  let v0 := List.replicate 32 (1 : UInt8)
  let k0 := List.replicate 32 (0 : UInt8)
  let k1 := Sha256.hmac k0 (v0 ++ [0] ++ x ++ h)
  let v1 := Sha256.hmac k1 v0
  let k2 := Sha256.hmac k1 (v1 ++ [1] ++ x ++ h)
  let v2 := Sha256.hmac k2 v1
  go k2 v2 count
where
  go (k v : Bytes) : Nat → List Nat
    | 0 => []
    | c + 1 =>
      let v' := Sha256.hmac k v
      let k'' := Sha256.hmac k (v' ++ [0])
      let v'' := Sha256.hmac k'' v'
      Bytes.toNat v' :: go k'' v'' c

/-- A recoverable signature: `r`, `s` and the recovery bit. -/
structure Signature where
  r : Nat
  s : Nat
  recovery : Nat
deriving DecidableEq, Inhabited

/-- The signature with nonce `k`, when it gives one. -/
def signWith (secret z k : Nat) : Option Signature :=
  match mul k generator with
  | .infinity => none
  | .affine x y =>
    let r := x % n
    let s := invMod k n * ((z + r * secret) % n) % n
    if r == 0 || s == 0 then none
    else
      let recovery := (if y % 2 == 1 then 1 else 0) + (if x ≥ n then 2 else 0)
      if s > n / 2 then some ⟨r, n - s, recovery ^^^ 1⟩ else some ⟨r, s, recovery⟩

def sign (secret : Nat) (digest : Bytes) : Option Signature :=
  let z := Bytes.toNat digest % n
  (nonces secret digest 16).findSome? fun k =>
    if k == 0 || k ≥ n then none else signWith secret z k

end FlashArb.Secp256k1
