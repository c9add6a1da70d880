/-! Editions of TOML. They differ in what they allow, in how deep a reader follows, and in what is kept
of a line break inside a string. -/
namespace ServiceWiring.Toml

structure Edition where
  /-- How many parts a key may have. -/
  keyLimit : Nat
  /-- How deep arrays and inline tables may be nested. -/
  nestingLimit : Nat
  /-- Whether an inline table may go over several lines and end in a comma. -/
  looseTables : Bool
  /-- Whether strings have escapes for the escape character and for two hexadecimal digits. -/
  shortCodes : Bool
  /-- Whether the seconds may be left off a time of day. -/
  bareMinutes : Bool
  /-- Whether a carriage return before a line feed stays in a string of several lines. -/
  keepsReturns : Bool
  deriving DecidableEq, Repr

namespace Edition

/-- TOML 1.0. -/
def first : Edition :=
  { keyLimit := 79, nestingLimit := 79, looseTables := false, shortCodes := false,
    bareMinutes := false, keepsReturns := false }

/-- TOML 1.1. -/
def revised : Edition :=
  { keyLimit := 80, nestingLimit := 80, looseTables := true, shortCodes := true,
    bareMinutes := true, keepsReturns := true }

end Edition

end ServiceWiring.Toml
