import ServiceWiring.Error
import ServiceWiring.Text.Blank
import ServiceWiring.Text.Case

/-! Log levels. -/
namespace ServiceWiring.Log
open ServiceWiring.Text

/-- How much is told, from nothing to everything. -/
inductive Level where
  | off
  | error
  | warn
  | info
  | debug
  | trace
  deriving DecidableEq, Repr

namespace Level

def all : List Level := [.off, .error, .warn, .info, .debug, .trace]

def rank : Level → Nat
  | .off => 0
  | .error => 1
  | .warn => 2
  | .info => 3
  | .debug => 4
  | .trace => 5

def name : Level → String
  | .off => "off"
  | .error => "error"
  | .warn => "warn"
  | .info => "info"
  | .debug => "debug"
  | .trace => "trace"

def max (a b : Level) : Level := if a.rank < b.rank then b else a

/-- The level of a configuration. Blanks around it and its case do not matter. -/
def ofSetting (text : String) : Except Error Level :=
  let word := String.ofList (lowerChars (trimChars text.toList))
  if word == "warning" then .ok .warn
  else match (all.filter (· != .off)).find? (·.name == word) with
    | some level => .ok level
    | none => .error (.settings (.badLevel text))

end Level

end ServiceWiring.Log
