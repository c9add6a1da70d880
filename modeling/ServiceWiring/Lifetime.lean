import ServiceWiring.Value

/-! How long a container keeps an instance of a service. -/
namespace ServiceWiring

inductive Lifetime where
  | singleton
  | scoped
  | transient
  deriving DecidableEq, Repr, Inhabited

namespace Lifetime

def all : List Lifetime := [.singleton, .scoped, .transient]

/-- Codes without a meaning stand for transient. -/
def ofCode (n : Int) : Lifetime :=
  if n = 0 then .singleton else if n = 1 then .scoped else .transient

def code : Lifetime → Int
  | .singleton => 0
  | .scoped => 1
  | .transient => 2

def name : Lifetime → String
  | .singleton => "Singleton"
  | .scoped => "Scoped"
  | .transient => "Transient"

theorem ofCode_code (l : Lifetime) : ofCode l.code = l := by cases l <;> rfl

def toValue (l : Lifetime) : Value := .text l.name

def ofValue? (v : Value) : Option Lifetime := v.oneOf? all name

end Lifetime

end ServiceWiring
