import FlashArb.Metrics.Protobuf

/-! Requests to the monitoring endpoint are answered by path. -/
namespace FlashArb.Metrics

/-- A request: the target path, possibly with a query, and the `Accept` header. -/
structure Request where
  path : String
  accept : String := ""

/-- A response: status code, content type (empty when none was set) and body. -/
structure Response where
  status : Nat
  contentType : String
  body : String

def trimBlanks (s : String) : String :=
  String.ofList ((s.toList.dropWhile (· == ' ')).reverse.dropWhile (· == ' ')).reverse

/-- One range of an `Accept` header. -/
structure MediaRange where
  type : String
  subtype : String
  quality : Float
  params : List (String × String)

def MediaRange.param (r : MediaRange) (k : String) : String :=
  (r.params.reverse.lookup k).getD ""

def qualityOf (s : String) : Float :=
  match Binary64.parse? s with
  | some x => x.toFloat32.toFloat
  | none => 0

/-- Reads one comma-separated part of an `Accept` header, if it names a media range. -/
def MediaRange.parse? (part : String) : Option MediaRange :=
  match (trimBlanks part).splitOn ";" with
  | [] => none
  | range :: params =>
    let sides := range.splitOn "/"
    let type := trimBlanks (sides.headD "")
    let subtype? : Option String :=
      match sides with
      | [_] => if type == "*" then some "*" else none
      | [_, s] => some (trimBlanks s)
      | _ => none
    subtype?.map fun subtype =>
      params.foldl (fun r p =>
        match p.splitOn "=" with
        | k :: v :: more =>
          let v := "=".intercalate (v :: more)
          if trimBlanks k == "q" then { r with quality := qualityOf v }
          else { r with params := r.params ++ [(trimBlanks k, trimBlanks v)] }
        | _ => r) ⟨type, subtype, 1, []⟩

def MediaRange.before (a b : MediaRange) : Bool :=
  a.quality > b.quality || (a.type != "*" && b.type == "*") ||
    (a.subtype != "*" && b.subtype == "*")

def sinkLeft {α : Type} (before : α → α → Bool) (x : α) : List α → List α
  | [] => [x]
  | y :: ys => if before x y then y :: sinkLeft before x ys else x :: y :: ys

def insertionSort {α : Type} (before : α → α → Bool) (xs : List α) : List α :=
  (xs.foldl (fun acc x => sinkLeft before x acc) []).reverse

def acceptRanges (header : String) : List MediaRange :=
  insertionSort MediaRange.before ((header.splitOn ",").filterMap MediaRange.parse?)

/-- A chosen format: how families are published and the content type. -/
structure Choice where
  render : List Family → String
  contentType : String

def classicChoice (escaping : String) : Choice :=
  ⟨Format.classic.document, "text/plain; version=0.0.4; charset=utf-8; escaping=" ++ escaping⟩

def escapingSchemes : List String := ["allow-utf-8", "underscores", "dots", "values"]

/-- Chooses the format for an `Accept` header; `escaping` is the scheme asked for so far. -/
def negotiate (escaping : String) : List MediaRange → Choice
  | [] => classicChoice escaping
  | r :: rs =>
    let asked := r.param "escaping"
    let escaping := if escapingSchemes.contains asked then asked else escaping
    let version := r.param "version"
    let encoding := r.param "encoding"
    if r.type ++ "/" ++ r.subtype == "application/vnd.google.protobuf" &&
        r.param "proto" == "io.prometheus.client.MetricFamily" &&
        ["delimited", "text", "compact-text"].contains encoding then
      ⟨fun fs => Text.lossyString (protobufDocument fs),
        "application/vnd.google.protobuf; proto=io.prometheus.client.MetricFamily; encoding=" ++
          encoding ++ "; escaping=" ++ escaping⟩
    else if r.type == "text" && r.subtype == "plain" && (version == "0.0.4" || version == "") then
      classicChoice escaping
    else if r.type ++ "/" ++ r.subtype == "application/openmetrics-text" &&
        (version == "0.0.1" || version == "1.0.0" || version == "") then
      ⟨Format.openMetrics.document, "application/openmetrics-text; version=" ++
        (if version == "1.0.0" then "1.0.0" else "0.0.1") ++ "; charset=utf-8; escaping=" ++ escaping⟩
    else negotiate escaping rs

/-- The segments of a rooted path after removing empty and `.` segments and resolving `..`
against the segments before it; `..` at the root stays at the root. -/
def resolveSegments (segments : List String) : List String :=
  (segments.foldl (fun acc s =>
    if s == "" || s == "." then acc
    else if s == ".." then acc.drop 1
    else s :: acc) []).reverse

def cleanPath (p : String) : String :=
  let p := if p.startsWith "/" then p else "/" ++ p
  let clean := "/" ++ "/".intercalate (resolveSegments (p.splitOn "/"))
  if p.endsWith "/" && clean != "/" then clean ++ "/" else clean

/-- Text safe inside an HTML attribute. -/
def htmlEscape (s : String) : String :=
  String.join (s.toList.map fun c =>
    match c with
    | '&' => "&amp;"
    | '\'' => "&#39;"
    | '<' => "&lt;"
    | '>' => "&gt;"
    | '"' => "&#34;"
    | c => c.toString)

def notFound : Response := ⟨404, "text/plain; charset=utf-8", "404 page not found\n"⟩

/-- Answers a request, publishing `families` at `/metrics`. -/
def answer (families : List Family) (r : Request) : Response :=
  let (path, query) := match r.path.splitOn "?" with
    | p :: rest => (p, "?".intercalate rest)
    | [] => ("", "")
  let clean := cleanPath path
  if clean != path then
    let target := clean ++ (if query.isEmpty then "" else "?" ++ query)
    ⟨301, "text/html; charset=utf-8",
      "<a href=\"" ++ htmlEscape target ++ "\">Moved Permanently</a>.\n\n"⟩
  else if path == "/healthz" then ⟨200, "", "ok"⟩
  else if path == "/metrics" then
    let choice := negotiate "values" (acceptRanges r.accept)
    ⟨200, choice.contentType, choice.render families⟩
  else notFound

end FlashArb.Metrics
