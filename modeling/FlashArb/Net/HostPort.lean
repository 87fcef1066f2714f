import FlashArb.Instances

/-! Network addresses written `host:port`. -/
namespace FlashArb.Net

def addressError (addr why : String) : String := "address " ++ addr ++ ": " ++ why

/-- Splits `host:port`, or says why the text is not of that form. -/
def splitHostPort (hp : String) : Except String (String × String) :=
  let cs := hp.toList
  let missing := addressError hp "missing port in address"
  let tooMany := addressError hp "too many colons in address"
  match cs.reverse.findIdx? (· == ':') with
  | none => .error missing
  | some fromEnd =>
    let i := cs.length - 1 - fromEnd
    let port := String.ofList (cs.drop (i + 1))
    let bracketed : Except String (String × Nat × Nat) :=
      if cs.head? == some '[' then
        match cs.findIdx? (· == ']') with
        | none => .error (addressError hp "missing ']' in address")
        | some e =>
          if e + 1 == cs.length then .error missing
          else if e + 1 == i then .ok (String.ofList ((cs.take e).drop 1), 1, e + 1)
          else if cs[e + 1]? == some ':' then .error tooMany
          else .error missing
      else
        let host := cs.take i
        if host.contains ':' then .error tooMany else .ok (String.ofList host, 0, 0)
    match bracketed with
    | .error e => .error e
    | .ok (host, j, k) =>
      if (cs.drop j).contains '[' then .error (addressError hp "unexpected '[' in address")
      else if (cs.drop k).contains ']' then .error (addressError hp "unexpected ']' in address")
      else .ok (host, port)

def joinHostPort (host port : String) : String :=
  if host.contains ':' then "[" ++ host ++ "]:" ++ port else host ++ ":" ++ port

end FlashArb.Net
