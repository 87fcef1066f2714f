import FlashArb.Metrics.Exposition
import FlashArb.Text.Utf8

/-! Metric families as protocol buffers. -/
namespace FlashArb.Metrics

def varint (n : Nat) : List UInt8 :=
  if n < 128 then [n.toUInt8] else (n % 128 + 128).toUInt8 :: varint (n / 128)
termination_by n
decreasing_by omega

def doubleBytes (x : Float) : List UInt8 :=
  let bits := x.toBits.toNat
  (List.range 8).map fun i => (bits / 2 ^ (8 * i) % 256).toUInt8

def varintField (field n : Nat) : List UInt8 := varint (field * 8) ++ varint n

def doubleField (field : Nat) (x : Float) : List UInt8 := varint (field * 8 + 1) ++ doubleBytes x

def bytesField (field : Nat) (bs : List UInt8) : List UInt8 :=
  varint (field * 8 + 2) ++ varint bs.length ++ bs

def textField (field : Nat) (s : String) : List UInt8 := bytesField field s.toUTF8.toList

def FamilyType.number : FamilyType → Nat
  | .counter => 0
  | .gauge => 1
  | .histogram => 4

/-- The message of one series. -/
def seriesMessage (type : FamilyType) (s : Series) : List UInt8 :=
  let labels := s.labels.flatMap fun (k, v) => bytesField 1 (textField 1 k ++ textField 2 v)
  let value := match s.reading with
    | .scalar v => bytesField (if type == .gauge then 2 else 3) (doubleField 1 v)
    | .distribution h =>
      bytesField 7 (varintField 1 h.count ++ doubleField 2 h.sum ++
        h.buckets.flatMap fun (b, n) => bytesField 3 (varintField 1 n ++ doubleField 2 b))
  labels ++ value

def familyMessage (f : Family) : List UInt8 :=
  textField 1 f.name ++ textField 2 f.help ++ varintField 3 f.type.number ++
    f.series.flatMap fun s => bytesField 4 (seriesMessage f.type s)

def protobufDocument (fs : List Family) : List UInt8 :=
  (gather fs).flatMap fun f =>
    let m := familyMessage f
    varint m.length ++ m

end FlashArb.Metrics
