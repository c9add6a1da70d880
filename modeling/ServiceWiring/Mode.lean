import ServiceWiring.Value

/-! Which services an annotated type is bound to. -/
namespace ServiceWiring

inductive Mode where
  | auto
  | firstContract
  | allContracts
  | itself
  | listed
  deriving DecidableEq, Repr, Inhabited

namespace Mode

def all : List Mode := [.auto, .firstContract, .allContracts, .itself, .listed]

/-- Codes without a meaning stand for the automatic choice. -/
def ofCode (n : Int) : Mode :=
  if n = 1 then .firstContract
  else if n = 2 then .allContracts
  else if n = 3 then .itself
  else if n = 4 then .listed
  else .auto

def code : Mode → Int
  | .auto => 0
  | .firstContract => 1
  | .allContracts => 2
  | .itself => 3
  | .listed => 4

def name : Mode → String
  | .auto => "Auto"
  | .firstContract => "FirstInterface"
  | .allContracts => "AllInterfaces"
  | .itself => "Instance"
  | .listed => "Manual"

theorem ofCode_code (m : Mode) : ofCode m.code = m := by cases m <;> rfl

def toValue (m : Mode) : Value := .text m.name

def ofValue? (v : Value) : Option Mode := v.oneOf? all name

end Mode

end ServiceWiring
