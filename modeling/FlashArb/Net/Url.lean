import FlashArb.Text.Utf8
import FlashArb.Net.Ip

/-! Reading and writing URLs of the form `scheme:[//[user[:password]@]host]path[?query][#fragment]`.
 -/
namespace FlashArb.Net

namespace Url

/-- The component a byte is escaped or unescaped for. -/
inductive Part where
  | path
  | pathSegment
  | host
  | zone
  | userPassword
  | queryComponent
  | fragment
deriving DecidableEq

def isAlnum (c : UInt8) : Bool :=
  (0x61 ≤ c && c ≤ 0x7A) || (0x41 ≤ c && c ≤ 0x5A) || (0x30 ≤ c && c ≤ 0x39)

/-- Whether a byte must be escaped in a component. -/
def shouldEscape (c : UInt8) (part : Part) : Bool :=
  if isAlnum c then false
  else if (part == .host || part == .zone) &&
      [0x21, 0x24, 0x26, 0x27, 0x28, 0x29, 0x2A, 0x2B, 0x2C, 0x3B, 0x3D, 0x3A, 0x5B, 0x5D, 0x3C,
        0x3E, 0x22].contains c then false
  else if [0x2D, 0x5F, 0x2E, 0x7E].contains c then false
  else if [0x24, 0x26, 0x2B, 0x2C, 0x2F, 0x3A, 0x3B, 0x3D, 0x3F, 0x40].contains c then
    match part with
    | .path => c == 0x3F
    | .pathSegment => c == 0x2F || c == 0x3B || c == 0x2C || c == 0x3F
    | .userPassword => c == 0x40 || c == 0x2F || c == 0x3F || c == 0x3A
    | .queryComponent => true
    | .fragment => false
    | _ => true
  else if part == .fragment && [0x21, 0x28, 0x29, 0x2A].contains c then false
  else true

def isHex (c : UInt8) : Bool :=
  (0x30 ≤ c && c ≤ 0x39) || (0x61 ≤ c && c ≤ 0x66) || (0x41 ≤ c && c ≤ 0x46)

def hexValue (c : UInt8) : Nat :=
  if c ≤ 0x39 then c.toNat - 0x30 else if c ≤ 0x46 then c.toNat - 0x41 + 10 else c.toNat - 0x61 + 10

def escapeError (s : Bytes) : String := "invalid URL escape " ++ Text.quoteBytes s

/-- Decodes the percent escapes of a component (and `+` as a space in a query component),
checking that each escape is well formed and allowed there. -/
def unescape (part : Part) : Bytes → Except String Bytes
  | [] => .ok []
  | 0x25 :: rest =>
    match rest with
    | a :: b :: more =>
      if !(isHex a && isHex b) then .error (escapeError [0x25, a, b])
      else
        let v := hexValue a * 16 + hexValue b
        let percent := a == 0x32 && b == 0x35
        if part == .host && hexValue a < 8 && !percent then .error (escapeError [0x25, a, b])
        else if part == .zone && !percent && v != 0x20 && shouldEscape (UInt8.ofNat v) .host then
          .error (escapeError [0x25, a, b])
        else (UInt8.ofNat v :: ·) <$> unescape part more
    | _ => .error (escapeError (0x25 :: rest))
  | 0x2B :: rest => ((if part == .queryComponent then 0x20 else 0x2B) :: ·) <$> unescape part rest
  | c :: rest =>
    if (part == .host || part == .zone) && c < 0x80 && shouldEscape c part then
      .error ("invalid character " ++ Text.quoteBytes [c] ++ " in host name")
    else (c :: ·) <$> unescape part rest

def upperHex (n : Nat) : UInt8 := UInt8.ofNat (if n < 10 then 0x30 + n else 0x41 + n - 10)

/-- Escapes the bytes of a component that must be escaped there. -/
def escape (part : Part) (s : Bytes) : Bytes :=
  s.flatMap fun c =>
    if shouldEscape c part then
      if c == 0x20 && part == .queryComponent then [0x2B]
      else [0x25, upperHex (c.toNat / 16), upperHex (c.toNat % 16)]
    else [c]

def validEncoded (part : Part) (s : Bytes) : Bool :=
  s.all fun c =>
    [0x21, 0x24, 0x26, 0x27, 0x28, 0x29, 0x2A, 0x2B, 0x2C, 0x3B, 0x3D, 0x3A, 0x40, 0x5B, 0x5D,
      0x25].contains c || !shouldEscape c part

def bytesOf (s : String) : Bytes := s.toUTF8.toList

def textOf (b : Bytes) : String := Text.lossyString b

def cut (sep : UInt8) (s : Bytes) : Bytes × Option Bytes :=
  match s.findIdx? (· == sep) with
  | some i => (s.take i, some (s.drop (i + 1)))
  | none => (s, none)

end Url

/-- The user part of an authority. -/
structure UserInfo where
  username : String
  password : Option String := none

/-- A parsed URL. -/
structure Url where
  scheme : String := ""
  opaquePart : String := ""
  user : Option UserInfo := none
  host : String := ""
  path : String := ""
  rawPath : String := ""
  omitHost : Bool := false
  forceQuery : Bool := false
  rawQuery : String := ""
  fragment : String := ""
  rawFragment : String := ""

namespace Url

/-- Splits off a scheme: letters, then letters, digits, `+`, `-` or `.`, then a colon. -/
def splitScheme (s : Bytes) : Except String (Bytes × Bytes) :=
  go s []
where
  go : Bytes → Bytes → Except String (Bytes × Bytes)
    | [], _ => .ok ([], s)
    | c :: rest, acc =>
      if (0x61 ≤ c && c ≤ 0x7A) || (0x41 ≤ c && c ≤ 0x5A) then go rest (c :: acc)
      else if (0x30 ≤ c && c ≤ 0x39) || c == 0x2B || c == 0x2D || c == 0x2E then
        if acc.isEmpty then .ok ([], s) else go rest (c :: acc)
      else if c == 0x3A then
        if acc.isEmpty then .error "missing protocol scheme" else .ok (acc.reverse, rest)
      else .ok ([], s)

def validOptionalPort : Bytes → Bool
  | [] => true
  | 0x3A :: ds => ds.all fun b => 0x30 ≤ b && b ≤ 0x39
  | _ => false

def lastIndex (sep : UInt8) (s : Bytes) : Option Nat :=
  (s.reverse.findIdx? (· == sep)).map fun k => s.length - 1 - k

def indexOf (pat : Bytes) (s : Bytes) : Option Nat :=
  (List.range (s.length + 1)).find? fun i => (s.drop i).take pat.length == pat

/-- Reads the host of an authority, with its port. -/
def parseHost (host : Bytes) : Except String String := do
  if let some o := lastIndex 0x5B host then
    if o != 0 then throw "invalid IP-literal"
    match lastIndex 0x5D host with
    | none => throw "missing ']' in host"
    | some i =>
      let colonPort := host.drop (i + 1)
      if !validOptionalPort colonPort then
        throw ("invalid port " ++ Text.quoteBytes colonPort ++ " after host")
      let port ← unescape .host colonPort
      let inside := (host.take i).drop 1
      let name ← match indexOf [0x25, 0x32, 0x35] inside with
        | some z => do
          let h1 ← unescape .host (inside.take z)
          let h2 ← unescape .zone (inside.drop z)
          pure (h1 ++ h2)
        | none => unescape .host inside
      match Net.parseAddr (textOf name) with
      | .error e => throw ("invalid host: " ++ e)
      | .ok true => throw "invalid IP-literal"
      | .ok false => return textOf ([0x5B] ++ name ++ [0x5D] ++ port)
  else
    if let some i := lastIndex 0x3A host then
      let colonPort := host.drop i
      if !validOptionalPort colonPort then
        throw ("invalid port " ++ Text.quoteBytes colonPort ++ " after host")
    return textOf (← unescape .host host)

def validUserinfo (s : Bytes) : Bool :=
  s.all fun c => isAlnum c ||
    [0x2D, 0x2E, 0x5F, 0x3A, 0x7E, 0x21, 0x24, 0x26, 0x27, 0x28, 0x29, 0x2A, 0x2B, 0x2C, 0x3B,
      0x3D, 0x25, 0x40].contains c

/-- Reads an authority: optional user information before the last `@`, then the host. -/
def parseAuthority (authority : Bytes) : Except String (Option UserInfo × String) := do
  match lastIndex 0x40 authority with
  | none => return (none, ← parseHost authority)
  | some i =>
    let host ← parseHost (authority.drop (i + 1))
    let info := authority.take i
    if !validUserinfo info then throw "net/url: invalid userinfo"
    match cut 0x3A info with
    | (name, none) => return (some ⟨textOf (← unescape .userPassword name), none⟩, host)
    | (name, some pw) =>
      return (some ⟨textOf (← unescape .userPassword name),
        some (textOf (← unescape .userPassword pw))⟩, host)

def hasControl (s : Bytes) : Bool := s.any fun c => c < 0x20 || c == 0x7F

def withPath (u : Url) (p : Bytes) : Except String Url := do
  let path ← unescape .path p
  return { u with path := textOf path, rawPath := if escape .path path == p then "" else textOf p }

/-- Reads a URL without its fragment. -/
def parseReference (raw : Bytes) : Except String Url := do
  if hasControl raw then throw "net/url: invalid control character in URL"
  if raw == [0x2A] then return { path := "*" }
  let (scheme, rest) ← splitScheme raw
  let scheme := textOf (scheme.map fun c => if 0x41 ≤ c && c ≤ 0x5A then c + 0x20 else c)
  let (rest, forceQuery, rawQuery) :=
    if rest.getLast? == some 0x3F && rest.count 0x3F == 1 then (rest.dropLast, true, [])
    else match cut 0x3F rest with
      | (r, some q) => (r, false, q)
      | (r, none) => (r, false, [])
  let u : Url := { scheme, forceQuery, rawQuery := textOf rawQuery }
  if rest.head? != some 0x2F then
    if !scheme.isEmpty then return { u with opaquePart := textOf rest }
    if (cut 0x2F rest).1.contains 0x3A then
      throw "first path segment in URL cannot contain colon"
  match rest with
  | 0x2F :: 0x2F :: after =>
    if !scheme.isEmpty || after.head? != some 0x2F then
      let (authority, path) := match after.findIdx? (· == 0x2F) with
        | some i => (after.take i, after.drop i)
        | none => (after, [])
      let (user, host) ← parseAuthority authority
      withPath { u with user := user, host := host } path
    else u.withPath rest
  | 0x2F :: _ => withPath { u with omitHost := !scheme.isEmpty } rest
  | _ => u.withPath rest

/-- Parses a URL; a failure reads `parse "<text>": <reason>`. -/
def parse (raw : String) : Except String Url :=
  let (u, frag) := cut 0x23 (bytesOf raw)
  match parseReference u with
  | .error e => .error ("parse " ++ Text.quoteBytes u ++ ": " ++ e)
  | .ok url =>
    match frag with
    | none => .ok url
    | some [] => .ok url
    | some f =>
      match unescape .fragment f with
      | .error e => .error ("parse " ++ Text.quote raw ++ ": " ++ e)
      | .ok decoded =>
        .ok { url with fragment := textOf decoded,
                       rawFragment := if escape .fragment decoded == f then "" else textOf f }

/-- The written form of the path. -/
def escapedPath (u : Url) : String :=
  let raw := bytesOf u.rawPath
  if !raw.isEmpty && validEncoded .path raw &&
      (match unescape .path raw with | .ok p => textOf p == u.path | .error _ => false) then
    u.rawPath
  else if u.path == "*" then "*"
  else textOf (escape .path (bytesOf u.path))

/-- The written form of the fragment. -/
def escapedFragment (u : Url) : String :=
  let raw := bytesOf u.rawFragment
  if !raw.isEmpty && validEncoded .fragment raw &&
      (match unescape .fragment raw with | .ok p => textOf p == u.fragment | .error _ => false) then
    u.rawFragment
  else textOf (escape .fragment (bytesOf u.fragment))

/-- User information as written: escaped name, then `:` and the escaped password if set. -/
def userText (i : UserInfo) : String :=
  textOf (escape .userPassword (bytesOf i.username)) ++
    match i.password with
    | some p => ":" ++ textOf (escape .userPassword (bytesOf p))
    | none => ""

def querySuffix (u : Url) : String :=
  if u.forceQuery || !u.rawQuery.isEmpty then "?" ++ u.rawQuery else ""

def fragmentSuffix (u : Url) : String :=
  if u.fragment.isEmpty then "" else "#" ++ u.escapedFragment

/-- The text of a URL. -/
def render (u : Url) : String :=
  let head := if u.scheme.isEmpty then "" else u.scheme ++ ":"
  if !u.opaquePart.isEmpty then
    head ++ u.opaquePart ++ u.querySuffix ++ u.fragmentSuffix
  else
    let authority :=
      if !u.scheme.isEmpty || !u.host.isEmpty || u.user.isSome then
        if u.omitHost && u.host.isEmpty && u.user.isNone then ""
        else
          (if !u.host.isEmpty || !u.path.isEmpty || u.user.isSome then "//" else "") ++
            (match u.user with | some i => userText i ++ "@" | none => "") ++
            textOf (escape .host (bytesOf u.host))
      else ""
    let path := u.escapedPath
    let slash := if !path.isEmpty && !path.startsWith "/" && !u.host.isEmpty then "/" else ""
    let sofar := head ++ authority ++ slash
    let dot := if sofar.isEmpty && ((path.splitOn "/").headD "").contains ':' then "./" else ""
    sofar ++ dot ++ path ++ u.querySuffix ++ u.fragmentSuffix

/-- The pairs of a query, in order: pieces between `&` without a `;`, split at the first `=`,
each side unescaped as a query component; unreadable pieces are skipped. -/
def queryPairs (query : String) : List (String × String) :=
  ((bytesOf query).splitOn 0x26).filterMap fun piece =>
    if piece.isEmpty || piece.contains 0x3B then none
    else
      let (k, v) := cut 0x3D piece
      match unescape .queryComponent k, unescape .queryComponent (v.getD []) with
      | .ok k, .ok v => some (textOf k, textOf v)
      | _, _ => none

end Url

end FlashArb.Net
