import Mathlib
import FlashArb.Dex.Events
import FlashArb.Loan.Call

/-! The event topics and the `flashLoan` selector as Keccak-256 hashes. -/
namespace FlashArb

namespace Keccak

/-! ### The rounds with their lanes written out

The kernel evaluates a permutation several times faster when every lane is read at a literal
index, so the constants below are computed through these forms of the rounds. -/

/-- θ with its lanes written out. -/
def thetaLanes (s : State) : State :=
  let c0 := lane s 0 ^^^ lane s 5 ^^^ lane s 10 ^^^ lane s 15 ^^^ lane s 20
  let c1 := lane s 1 ^^^ lane s 6 ^^^ lane s 11 ^^^ lane s 16 ^^^ lane s 21
  let c2 := lane s 2 ^^^ lane s 7 ^^^ lane s 12 ^^^ lane s 17 ^^^ lane s 22
  let c3 := lane s 3 ^^^ lane s 8 ^^^ lane s 13 ^^^ lane s 18 ^^^ lane s 23
  let c4 := lane s 4 ^^^ lane s 9 ^^^ lane s 14 ^^^ lane s 19 ^^^ lane s 24
  let d0 := c4 ^^^ rotl c1 1
  let d1 := c0 ^^^ rotl c2 1
  let d2 := c1 ^^^ rotl c3 1
  let d3 := c2 ^^^ rotl c4 1
  let d4 := c3 ^^^ rotl c0 1
  #[lane s 0 ^^^ d0, lane s 1 ^^^ d1, lane s 2 ^^^ d2, lane s 3 ^^^ d3, lane s 4 ^^^ d4,
    lane s 5 ^^^ d0, lane s 6 ^^^ d1, lane s 7 ^^^ d2, lane s 8 ^^^ d3, lane s 9 ^^^ d4,
    lane s 10 ^^^ d0, lane s 11 ^^^ d1, lane s 12 ^^^ d2, lane s 13 ^^^ d3, lane s 14 ^^^ d4,
    lane s 15 ^^^ d0, lane s 16 ^^^ d1, lane s 17 ^^^ d2, lane s 18 ^^^ d3, lane s 19 ^^^ d4,
    lane s 20 ^^^ d0, lane s 21 ^^^ d1, lane s 22 ^^^ d2, lane s 23 ^^^ d3, lane s 24 ^^^ d4]

/-- ρ and π with their lanes written out. -/
def rhoPiLanes (s : State) : State :=
  #[rotl (lane s 0) 0, rotl (lane s 6) 44, rotl (lane s 12) 43, rotl (lane s 18) 21,
    rotl (lane s 24) 14, rotl (lane s 3) 28, rotl (lane s 9) 20, rotl (lane s 10) 3,
    rotl (lane s 16) 45, rotl (lane s 22) 61, rotl (lane s 1) 1, rotl (lane s 7) 6,
    rotl (lane s 13) 25, rotl (lane s 19) 8, rotl (lane s 20) 18, rotl (lane s 4) 27,
    rotl (lane s 5) 36, rotl (lane s 11) 10, rotl (lane s 17) 15, rotl (lane s 23) 56,
    rotl (lane s 2) 62, rotl (lane s 8) 55, rotl (lane s 14) 39, rotl (lane s 15) 41,
    rotl (lane s 21) 2]

/-- χ with its lanes written out. -/
def chiLanes (s : State) : State :=
  #[lane s 0 ^^^ (~~~ lane s 1 &&& lane s 2), lane s 1 ^^^ (~~~ lane s 2 &&& lane s 3),
    lane s 2 ^^^ (~~~ lane s 3 &&& lane s 4), lane s 3 ^^^ (~~~ lane s 4 &&& lane s 0),
    lane s 4 ^^^ (~~~ lane s 0 &&& lane s 1), lane s 5 ^^^ (~~~ lane s 6 &&& lane s 7),
    lane s 6 ^^^ (~~~ lane s 7 &&& lane s 8), lane s 7 ^^^ (~~~ lane s 8 &&& lane s 9),
    lane s 8 ^^^ (~~~ lane s 9 &&& lane s 5), lane s 9 ^^^ (~~~ lane s 5 &&& lane s 6),
    lane s 10 ^^^ (~~~ lane s 11 &&& lane s 12), lane s 11 ^^^ (~~~ lane s 12 &&& lane s 13),
    lane s 12 ^^^ (~~~ lane s 13 &&& lane s 14), lane s 13 ^^^ (~~~ lane s 14 &&& lane s 10),
    lane s 14 ^^^ (~~~ lane s 10 &&& lane s 11), lane s 15 ^^^ (~~~ lane s 16 &&& lane s 17),
    lane s 16 ^^^ (~~~ lane s 17 &&& lane s 18), lane s 17 ^^^ (~~~ lane s 18 &&& lane s 19),
    lane s 18 ^^^ (~~~ lane s 19 &&& lane s 15), lane s 19 ^^^ (~~~ lane s 15 &&& lane s 16),
    lane s 20 ^^^ (~~~ lane s 21 &&& lane s 22), lane s 21 ^^^ (~~~ lane s 22 &&& lane s 23),
    lane s 22 ^^^ (~~~ lane s 23 &&& lane s 24), lane s 23 ^^^ (~~~ lane s 24 &&& lane s 20),
    lane s 24 ^^^ (~~~ lane s 20 &&& lane s 21)]


theorem theta_eq_lanes (s : State) : theta s = thetaLanes s := by
  apply Array.ext
  · simp [theta, thetaLanes]
  · intro i lt _
    simp only [theta, Array.size_ofFn] at lt
    interval_cases i <;> simp only [theta, thetaLanes, Array.getElem_ofFn, List.getElem_toArray,
      List.getElem_cons_succ, List.getElem_cons_zero, Nat.reduceMod, Nat.reduceAdd]

theorem rhoPi_eq_lanes (s : State) : rhoPi s = rhoPiLanes s := by
  apply Array.ext
  · simp [rhoPi, rhoPiLanes]
  · intro i lt _
    simp only [rhoPi, Array.size_ofFn] at lt
    interval_cases i <;> simp only [rhoPi, rhoPiLanes, Array.getElem_ofFn, List.getElem_toArray,
      List.getElem_cons_succ, List.getElem_cons_zero, Nat.reduceMod, Nat.reduceAdd, Nat.reduceMul,
      Nat.reduceDiv] <;> rfl

theorem chi_eq_lanes (s : State) : chi s = chiLanes s := by
  apply Array.ext
  · simp [chi, chiLanes]
  · intro i lt _
    simp only [chi, Array.size_ofFn] at lt
    interval_cases i <;> simp only [chi, chiLanes, Array.getElem_ofFn, List.getElem_toArray,
      List.getElem_cons_succ, List.getElem_cons_zero, Nat.reduceMod, Nat.reduceAdd, Nat.reduceMul,
      Nat.reduceDiv]

/-- Keccak-f[1600] through the written-out rounds. -/
def permuteLanes (s : State) : State :=
  (List.range 24).foldl (fun st r => iota r (chiLanes (rhoPiLanes (thetaLanes st)))) s

theorem permute_eq_lanes (s : State) : permute s = permuteLanes s := by
  simp only [permute, permuteLanes, theta_eq_lanes, rhoPi_eq_lanes, chi_eq_lanes]

theorem absorbBlock_eq_lanes : absorbBlock = fun (s : State) (block : Bytes) =>
    permuteLanes (Array.ofFn (n := 25) fun i =>
      if i.val < 17 then lane s i.val ^^^ laneOf (Bytes.slice block (8 * i.val) 8)
      else lane s i.val) := by
  funext s block
  simp only [absorbBlock, permute_eq_lanes]

/-- Keccak-256 through the written-out rounds. -/
def hashLanes (msg : Bytes) : Bytes :=
  let padded := pad msg
  let absorb := fun (s : State) (block : Bytes) => permuteLanes (Array.ofFn (n := 25) fun i =>
    if i.val < 17 then lane s i.val ^^^ laneOf (Bytes.slice block (8 * i.val) 8) else lane s i.val)
  let s := (blocks (padded.length / rate) padded).foldl absorb (Array.replicate 25 0)
  (List.range 4).flatMap fun i => bytesOfLane (lane s i)

theorem hash_eq_lanes (msg : Bytes) : hash msg = hashLanes msg := by
  simp only [hash, hashLanes, absorbBlock_eq_lanes]

end Keccak

theorem keccak_constants :
    Topic.concentratedSwap.toNat =
        0xc42079f94a6350d7e6235f29174924f928cc2ac818eb64fed8004e115fbcca67 ∧
      Topic.productSwap.toNat =
        0xb3e2773606abfd36b5bd91394b3a54d1398336c65005baf7bf7a05efeffaf75b ∧
      Topic.sync.toNat = 0xcf2aa50876cdfbb541206f89af0ee78d44a2abf8d328e37fa4917f982149848a ∧
      Topic.concentratedPoolCreated.toNat =
        0x783cca1c0412dd0d695e784568c96da2e9c22ff989357a2e8b1d9b2b4e6b7118 ∧
      Topic.productPoolCreated.toNat =
        0x2128d88d14c80cb081c1252a5acff7a264671bf199ce226b53788fb26065005e ∧
      Abi.selector FlashLoan.signature = [0x5c, 0x38, 0x44, 0x9e] := by
  simp only [Topic.concentratedSwap, Topic.productSwap, Topic.sync, Topic.concentratedPoolCreated,
    Topic.productPoolCreated, eventTopic, Hash.keccak, Abi.selector, Keccak.hash_eq_lanes]
  refine ⟨?_, ?_, ?_, ?_, ?_, ?_⟩
  · decide +kernel
  · decide +kernel
  · decide +kernel
  · decide +kernel
  · decide +kernel
  · decide +kernel

namespace Topic

theorem concentratedSwap_toNat :
    concentratedSwap.toNat = 0xc42079f94a6350d7e6235f29174924f928cc2ac818eb64fed8004e115fbcca67 :=
  keccak_constants.1

theorem productSwap_toNat :
    productSwap.toNat = 0xb3e2773606abfd36b5bd91394b3a54d1398336c65005baf7bf7a05efeffaf75b :=
  keccak_constants.2.1

theorem sync_toNat :
    sync.toNat = 0xcf2aa50876cdfbb541206f89af0ee78d44a2abf8d328e37fa4917f982149848a :=
  keccak_constants.2.2.1

theorem concentratedPoolCreated_toNat :
    concentratedPoolCreated.toNat =
      0x783cca1c0412dd0d695e784568c96da2e9c22ff989357a2e8b1d9b2b4e6b7118 :=
  keccak_constants.2.2.2.1

theorem productPoolCreated_toNat :
    productPoolCreated.toNat =
      0x2128d88d14c80cb081c1252a5acff7a264671bf199ce226b53788fb26065005e :=
  keccak_constants.2.2.2.2.1

end Topic

theorem FlashLoan.selector_signature :
    Abi.selector FlashLoan.signature = [0x5c, 0x38, 0x44, 0x9e] :=
  keccak_constants.2.2.2.2.2

end FlashArb
