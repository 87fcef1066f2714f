import FlashArb.Json.Value
import FlashArb.Float.Text
import FlashArb.Failure

/-! A log entry has a severity, a message and named fields whose values are JSON values. -/
namespace FlashArb

/-- Severities, least severe first. -/
inductive Level where
  | debug
  | info
  | warn
  | error
  | dpanic
  | panic
  | fatal
deriving DecidableEq, Inhabited

namespace Level

def rank : Level → Nat
  | .debug => 0
  | .info => 1
  | .warn => 2
  | .error => 3
  | .dpanic => 4
  | .panic => 5
  | .fatal => 6

def name : Level → String
  | .debug => "debug"
  | .info => "info"
  | .warn => "warn"
  | .error => "error"
  | .dpanic => "dpanic"
  | .panic => "panic"
  | .fatal => "fatal"

/-- A severity by its name in lower or upper case; the empty name is `info`. -/
def parse? : String → Option Level
  | "debug" | "DEBUG" => some .debug
  | "info" | "INFO" | "" => some .info
  | "warn" | "WARN" => some .warn
  | "error" | "ERROR" => some .error
  | "dpanic" | "DPANIC" => some .dpanic
  | "panic" | "PANIC" => some .panic
  | "fatal" | "FATAL" => some .fatal
  | _ => none

def atLeast (l threshold : Level) : Bool := l.rank ≥ threshold.rank

end Level

/-- One log entry. -/
structure LogEntry where
  level : Level
  message : String
  fields : List (String × Json) := []

def LogEntry.toJson (e : LogEntry) : Json :=
  .obj [("level", .str e.level.name), ("msg", .str e.message), ("fields", .obj e.fields)]

/-- A place where computations write log entries. -/
class LogSink (m : Type → Type) where
  emit : LogEntry → m Unit

instance : LogSink Id := ⟨fun _ => ()⟩

instance {σ : Type} {m : Type → Type} [Monad m] [LogSink m] : LogSink (StateT σ m) :=
  ⟨fun e => StateT.lift (LogSink.emit e)⟩

namespace Log

def text (k s : String) : String × Json := (k, .str s)

def nat (k : String) (n : Nat) : String × Json := (k, Json.ofNat n)

def int (k : String) (n : Int) : String × Json := (k, Json.ofInt n)

def bool (k : String) (b : Bool) : String × Json := (k, .bool b)

def float (k : String) (x : Float) : String × Json :=
  match Binary64.classify x with
  | .finite .. => (k, .num (Binary64.formatPositional x))
  | _ => (k, .str (Binary64.formatPositional x))

def duration (k : String) (ns : Nat) : String × Json := float k (Float.ofNat ns / 1000000000)

def failure (f : Failure) : String × Json := ("error", .str f.message)

variable {m : Type → Type} [LogSink m]

def debug (msg : String) (fields : List (String × Json) := []) : m Unit :=
  LogSink.emit { level := .debug, message := msg, fields }

def info (msg : String) (fields : List (String × Json) := []) : m Unit :=
  LogSink.emit { level := .info, message := msg, fields }

def warn (msg : String) (fields : List (String × Json) := []) : m Unit :=
  LogSink.emit { level := .warn, message := msg, fields }

def error (msg : String) (fields : List (String × Json) := []) : m Unit :=
  LogSink.emit { level := .error, message := msg, fields }

end Log

end FlashArb
