import FlashArb.Text.Quoted

/-! Which texts are IP addresses. -/
namespace FlashArb.Net

/-- Reads the fields of an IPv4 address: `some` of the four values when well formed. -/
def ipv4Fields (cs : List Char) : Option (List Nat) :=
  let groups := (String.ofList cs).splitOn "."
  if groups.length != 4 then none
  else groups.mapM fun g =>
    let ds := g.toList
    if ds.isEmpty || !ds.all Char.isDigit then none
    else if ds.length > 1 && ds.head? == some '0' then none
    else
      let v := g.toNat!
      if v > 255 then none else some v

/-- The value of a hexadecimal digit. -/
def hexDigitValue? (c : Char) : Option Nat :=
  if c.isDigit then some (c.toNat - '0'.toNat)
  else if 'a' ≤ c && c ≤ 'f' then some (c.toNat - 'a'.toNat + 10)
  else if 'A' ≤ c && c ≤ 'F' then some (c.toNat - 'A'.toNat + 10)
  else none

def isHexGroup (g : String) : Bool :=
  !g.isEmpty && g.length ≤ 4 && g.toList.all fun c => (hexDigitValue? c).isSome

/-- How many 16-bit groups a colon-separated run stands for, if every piece is well formed;
only the last piece of the whole address may be an IPv4 address, counting for two. -/
def groupCount (pieces : List String) (tailAllowed : Bool) : Option Nat :=
  match pieces.reverse with
  | [] => some 0
  | last :: before =>
    if !before.all isHexGroup then none
    else if isHexGroup last then some pieces.length
    else if tailAllowed && last.contains '.' && (ipv4Fields last.toList).isSome then
      some (pieces.length + 1)
    else none

/-- Whether a text without zone is an IPv6 address. -/
def isIpv6Body (s : String) : Bool :=
  match s.splitOn "::" with
  | [whole] =>
    match groupCount (whole.splitOn ":") true with
    | some n => n == 8
    | none => false
  | [front, back] =>
    let frontPieces := if front.isEmpty then [] else front.splitOn ":"
    let backPieces := if back.isEmpty then [] else back.splitOn ":"
    match groupCount frontPieces false, groupCount backPieces true with
    | some a, some b => a + b < 8
    | _, _ => false
  | _ => false

/-- Whether a text is an IPv6 address, with an optional non-empty zone after `%`. -/
def isIpv6 (s : String) : Bool :=
  match s.splitOn "%" with
  | [body] => isIpv6Body body
  | body :: zone => !("%".intercalate zone).isEmpty && isIpv6Body body
  | [] => false

/-- Whether a text is an IP address, which kind being decided by the first `.` or `:`; a
zone is kept apart and reported. -/
def parseIp? (s : String) : Option (Bool × String) :=
  match s.toList.find? fun c => c == '.' || c == ':' || c == '%' with
  | some '.' => if (ipv4Fields s.toList).isSome then some (false, "") else none
  | some ':' =>
    if isIpv6 s then
      match s.splitOn "%" with
      | _ :: zone => some (true, "%".intercalate zone)
      | [] => some (true, "")
    else none
  | _ => none

def isIpLiteral (s : String) : Bool :=
  match parseIp? s with
  | some (_, zone) => zone.isEmpty
  | none => false

def addrError (input why : String) (rest : List Char := []) : String :=
  "ParseAddr(" ++ Text.quote input ++ "): " ++ why ++
    (if rest.isEmpty then "" else " (at " ++ Text.quote (String.ofList rest) ++ ")")

/-- Reads dotted IPv4 fields from `s`, part of `input`: four decimal fields of at most 255, without
leading zeros. -/
def readIpv4 (input : String) : List Char → Nat → Nat → Nat → Bool → Bool → Except String Unit
  | [], _, pos, _, _, _ => if pos < 3 then .error (addrError input "IPv4 address too short") else .ok ()
  | c :: rest, val, pos, digits, atStart, afterDot =>
    if c.isDigit then
      if digits == 1 && val == 0 then .error (addrError input "IPv4 field has octet with leading zero")
      else
        let v := val * 10 + (c.toNat - '0'.toNat)
        if v > 255 then .error (addrError input "IPv4 field has value >255")
        else readIpv4 input rest v pos (digits + 1) false false
    else if c == '.' then
      if atStart || rest.isEmpty || afterDot then
        .error (addrError input "IPv4 field must have at least one digit" (c :: rest))
      else if pos == 3 then .error (addrError input "IPv4 address too long")
      else readIpv4 input rest 0 (pos + 1) 0 false true
    else .error (addrError input "unexpected character" (c :: rest))

/-- Reads the groups of an IPv6 address from `s`, part of `input`, with at most `fuel` more groups;
`i` counts the bytes read and `gap` is where a `::` stands. -/
def readIpv6Groups (input : String) :
    Nat → List Char → Nat → Option Nat → Except String (List Char × Nat × Option Nat)
  | 0, s, i, gap => .ok (s, i, gap)
  | fuel + 1, s, i, gap =>
    if i ≥ 16 then .ok (s, i, gap)
    else
      let digits := s.takeWhile fun c => (hexDigitValue? c).isSome
      if digits.length > 4 then .error (addrError input "each group must have 4 or less digits" s)
      else if digits.isEmpty then
        .error (addrError input "each colon-separated field must have at least one digit" s)
      else
        match s.drop digits.length with
        | '.' :: _ =>
          if gap.isNone && i != 12 then
            .error (addrError input "embedded IPv4 address must replace the final 2 fields of the address" s)
          else if i + 4 > 16 then
            .error (addrError input "too many hex fields to fit an embedded IPv4 at the end of the address" s)
          else (readIpv4 input s 0 0 0 true false).map fun _ => ([], i + 4, gap)
        | [] => .ok ([], i + 2, gap)
        | c :: more =>
          if c != ':' then .error (addrError input "unexpected character, want colon" (c :: more))
          else if more.isEmpty then .error (addrError input "colon must be followed by more characters" [c])
          else match more with
            | ':' :: after =>
              if gap.isSome then .error (addrError input "multiple :: in address" more)
              else if after.isEmpty then .ok ([], i + 2, some (i + 2))
              else readIpv6Groups input fuel after (i + 2) (some (i + 2))
            | _ => readIpv6Groups input fuel more (i + 2) gap

/-- Reads an IPv6 address with an optional zone after `%`. -/
def readIpv6 (input : String) : Except String Unit := do
  let cs := input.toList
  let body := cs.takeWhile (· != '%')
  if cs.length > body.length && cs.length == body.length + 1 then
    throw (addrError input "zone must be a non-empty string")
  let (start, gap) := match body with
    | ':' :: ':' :: rest => (rest, some 0)
    | _ => (body, none)
  if gap.isSome && start.isEmpty then return
  let (rest, i, gap) ← readIpv6Groups input 9 start 0 gap
  if !rest.isEmpty then throw (addrError input "trailing garbage after address" rest)
  if i < 16 then
    if gap.isNone then throw (addrError input "address string too short")
  else if gap.isSome then throw (addrError input "the :: must expand to at least one field of zeros")

/-- Reads an IP address, as IPv4 or IPv6 by whichever of `.` and `:` comes first; `true` for
IPv4. -/
def parseAddr (input : String) : Except String Bool :=
  match input.toList.find? fun c => c == '.' || c == ':' || c == '%' with
  | some '.' => (readIpv4 input input.toList 0 0 0 true false).map fun _ => true
  | some ':' => (readIpv6 input).map fun _ => false
  | some _ => .error (addrError input "missing IPv6 address")
  | none => .error (addrError input "unable to parse IP")

end FlashArb.Net
