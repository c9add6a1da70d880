/-! The names around the bindings in registration source. -/
namespace ServiceWiring

/-- The namespace of the generated type, its name, its entry point, the hook that hosts may extend,
and the namespace of the container where it is not the usual one. -/
structure Scaffold where
  space : String
  className : String
  entryPoint : String
  hook : String
  container : Option String
  deriving DecidableEq, Repr

namespace Scaffold

def defaultSpace : String := "Skanr.Generated"

def defaultClassName : String := "SkanrServiceRegistration"

def defaultEntryPoint : String := "RegisterServices"

def defaultHook : String := "RegisterAdditionalServices"

def initial : Scaffold :=
  { space := defaultSpace
    className := defaultClassName
    entryPoint := defaultEntryPoint
    hook := defaultHook
    container := none }

end Scaffold

end ServiceWiring
