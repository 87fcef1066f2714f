import FlashArb.Bytes

/-! Keccak-256. -/
namespace FlashArb.Keccak

/-- The 25 lanes of the permutation state. -/
abbrev State := Array UInt64

def lane (s : State) (i : Nat) : UInt64 := s.getD i 0

def rotl (w : UInt64) (n : Nat) : UInt64 :=
  if n == 0 then w else (w <<< n.toUInt64) ||| (w >>> (64 - n).toUInt64)

def roundConstants : Array UInt64 :=
  #[0x0000000000000001, 0x0000000000008082, 0x800000000000808A, 0x8000000080008000,
    0x000000000000808B, 0x0000000080000001, 0x8000000080008081, 0x8000000000008009,
    0x000000000000008A, 0x0000000000000088, 0x0000000080008009, 0x000000008000000A,
    0x000000008000808B, 0x800000000000008B, 0x8000000000008089, 0x8000000000008003,
    0x8000000000008002, 0x8000000000000080, 0x000000000000800A, 0x800000008000000A,
    0x8000000080008081, 0x8000000000008080, 0x0000000080000001, 0x8000000080008008]

def rotations : Array Nat :=
  #[0, 1, 62, 28, 27, 36, 44, 6, 55, 20, 3, 10, 43, 25, 39, 41, 45, 15, 21, 8, 18, 2, 61, 56, 14]

def theta (s : State) : State :=
  let c := fun x => lane s x ^^^ lane s (x + 5) ^^^ lane s (x + 10) ^^^ lane s (x + 15) ^^^ lane s (x + 20)
  let d := fun x => c ((x + 4) % 5) ^^^ rotl (c ((x + 1) % 5)) 1
  Array.ofFn (n := 25) fun i => lane s i.val ^^^ d (i.val % 5)

/-- ρ and π: lane `(x, y)` is rotated and moves to `(y, 2x + 3y)`. -/
def rhoPi (s : State) : State :=
  Array.ofFn (n := 25) fun i =>
    let bx := i.val % 5
    let by' := i.val / 5
    let src := (3 * by' + bx) % 5 + 5 * bx
    rotl (lane s src) (rotations.getD src 0)

/-- χ: the only non-linear step, along each row. -/
def chi (s : State) : State :=
  Array.ofFn (n := 25) fun i =>
    let x := i.val % 5
    let y := i.val / 5
    lane s i.val ^^^ ((~~~ lane s ((x + 1) % 5 + 5 * y)) &&& lane s ((x + 2) % 5 + 5 * y))

def iota (r : Nat) (s : State) : State :=
  s.modify 0 (· ^^^ roundConstants.getD r 0)

def permute (s : State) : State :=
  (List.range 24).foldl (fun st r => iota r (chi (rhoPi (theta st)))) s

def laneOf (bs : Bytes) : UInt64 :=
  bs.foldr (fun b acc => (acc <<< 8) ||| b.toUInt64) 0

def bytesOfLane (w : UInt64) : Bytes :=
  (List.range 8).map fun k => (w >>> (8 * k).toUInt64).toUInt8

def rate : Nat := 136

/-- The message with its padding, a whole number of blocks long. -/
def pad (msg : Bytes) : Bytes :=
  let r := msg.length % rate
  let fill := rate - r
  if fill == 1 then msg ++ [0x81]
  else msg ++ [0x01] ++ List.replicate (fill - 2) 0 ++ [0x80]

def absorbBlock (s : State) (block : Bytes) : State :=
  permute (Array.ofFn (n := 25) fun i =>
    if i.val < 17 then lane s i.val ^^^ laneOf (Bytes.slice block (8 * i.val) 8) else lane s i.val)

def blocks : Nat → Bytes → List Bytes
  | 0, _ => []
  | n + 1, bs => bs.take rate :: blocks n (bs.drop rate)

def hash (msg : Bytes) : Bytes :=
  let padded := pad msg
  let s := (blocks (padded.length / rate) padded).foldl absorbBlock (Array.replicate 25 0)
  (List.range 4).flatMap fun i => bytesOfLane (lane s i)

end FlashArb.Keccak
