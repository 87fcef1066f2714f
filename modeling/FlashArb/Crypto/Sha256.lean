import FlashArb.Bytes

/-! SHA-256. -/
namespace FlashArb.Sha256

def roundConstants : Array UInt32 :=
  #[0x428a2f98, 0x71374491, 0xb5c0fbcf, 0xe9b5dba5, 0x3956c25b, 0x59f111f1, 0x923f82a4, 0xab1c5ed5,
    0xd807aa98, 0x12835b01, 0x243185be, 0x550c7dc3, 0x72be5d74, 0x80deb1fe, 0x9bdc06a7, 0xc19bf174,
    0xe49b69c1, 0xefbe4786, 0x0fc19dc6, 0x240ca1cc, 0x2de92c6f, 0x4a7484aa, 0x5cb0a9dc, 0x76f988da,
    0x983e5152, 0xa831c66d, 0xb00327c8, 0xbf597fc7, 0xc6e00bf3, 0xd5a79147, 0x06ca6351, 0x14292967,
    0x27b70a85, 0x2e1b2138, 0x4d2c6dfc, 0x53380d13, 0x650a7354, 0x766a0abb, 0x81c2c92e, 0x92722c85,
    0xa2bfe8a1, 0xa81a664b, 0xc24b8b70, 0xc76c51a3, 0xd192e819, 0xd6990624, 0xf40e3585, 0x106aa070,
    0x19a4c116, 0x1e376c08, 0x2748774c, 0x34b0bcb5, 0x391c0cb3, 0x4ed8aa4a, 0x5b9cca4f, 0x682e6ff3,
    0x748f82ee, 0x78a5636f, 0x84c87814, 0x8cc70208, 0x90befffa, 0xa4506ceb, 0xbef9a3f7, 0xc67178f2]

def initial : Array UInt32 :=
  #[0x6a09e667, 0xbb67ae85, 0x3c6ef372, 0xa54ff53a, 0x510e527f, 0x9b05688c, 0x1f83d9ab, 0x5be0cd19]

def rotr (w : UInt32) (n : UInt32) : UInt32 := (w >>> n) ||| (w <<< (32 - n))

def word (ws : Array UInt32) (i : Nat) : UInt32 := ws.getD i 0

def wordOf (bs : Bytes) : UInt32 := bs.foldl (fun acc b => (acc <<< 8) ||| b.toUInt32) 0

/-- The 64 words of the message schedule of a block. -/
def schedule (block : Bytes) : Array UInt32 :=
  (List.range 48).foldl (fun ws i =>
    let t := i + 16
    let w15 := word ws (t - 15)
    let w2 := word ws (t - 2)
    let s0 := rotr w15 7 ^^^ rotr w15 18 ^^^ (w15 >>> 3)
    let s1 := rotr w2 17 ^^^ rotr w2 19 ^^^ (w2 >>> 10)
    ws.push (word ws (t - 16) + s0 + word ws (t - 7) + s1))
    (Array.ofFn (n := 16) fun i => wordOf (Bytes.slice block (4 * i.val) 4))

/-- One round on the working words `a … h`. -/
def round (w : Array UInt32) (v : Array UInt32) (i : Nat) : Array UInt32 :=
  let a := word v 0
  let b := word v 1
  let c := word v 2
  let d := word v 3
  let e := word v 4
  let f := word v 5
  let g := word v 6
  let h := word v 7
  let s1 := rotr e 6 ^^^ rotr e 11 ^^^ rotr e 25
  let ch := (e &&& f) ^^^ ((~~~ e) &&& g)
  let t1 := h + s1 + ch + word roundConstants i + word w i
  let s0 := rotr a 2 ^^^ rotr a 13 ^^^ rotr a 22
  let maj := (a &&& b) ^^^ (a &&& c) ^^^ (b &&& c)
  let t2 := s0 + maj
  #[t1 + t2, a, b, c, d + t1, e, f, g]

def compress (state : Array UInt32) (block : Bytes) : Array UInt32 :=
  let w := schedule block
  let v := (List.range 64).foldl (round w) state
  Array.ofFn (n := 8) fun i => word state i.val + word v i.val

def pad (msg : Bytes) : Bytes :=
  let fill := (64 + 55 - msg.length % 64) % 64
  msg ++ [0x80] ++ List.replicate fill 0 ++ Bytes.ofNat 8 (8 * msg.length)

def blocks : Nat → Bytes → List Bytes
  | 0, _ => []
  | n + 1, bs => bs.take 64 :: blocks n (bs.drop 64)

def hash (msg : Bytes) : Bytes :=
  let padded := pad msg
  let s := (blocks (padded.length / 64) padded).foldl compress initial
  s.toList.flatMap fun w => Bytes.ofNat 4 w.toNat

/-- HMAC-SHA-256 of a message under a key. -/
def hmac (key msg : Bytes) : Bytes :=
  let k := if key.length > 64 then hash key else key
  let k := k ++ List.replicate (64 - k.length) 0
  let inner := hash (k.map (· ^^^ 0x36) ++ msg)
  hash (k.map (· ^^^ 0x5c) ++ inner)

end FlashArb.Sha256
