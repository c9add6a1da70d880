import ServiceWiring.CommandLine

/-! What the program tells about itself when it is asked. -/
namespace ServiceWiring.CommandLine

def ValuedOption.purpose : ValuedOption → String
  | .config => "Settings file"
  | .manifest => "Description of a build unit in JSON, YAML or TOML"
  | .outDir => "Directory for generated files, which are printed without it"
  | .dialect => "Dialect of the generated source"
  | .space => "Namespace of the generated type"
  | .format => "Format of the report"

def Command.purpose : Command → String
  | .program => "Generates the source that registers services"
  | .generate => "Generate source from manifests"
  | .plan => "Report what would be registered, without any source"
  | .dialects => "List the dialects"

def ValuedOption.usage (o : ValuedOption) : String :=
  "      -" ++ String.singleton o.short ++ ", --" ++ o.long ++ " <value>  " ++ o.purpose ++ "\n"

/-- A command and its options, one a line. -/
def Command.usage (command : Command) : String :=
  "  " ++ command.name ++ "  " ++ command.purpose ++ "\n" ++
    String.join (command.options.map ValuedOption.usage)

def usage : String := String.join ((.program :: Command.all).map Command.usage)

def version : String := Command.program.name ++ " 0.2.0\n"

def Topic.text : Topic → String
  | .usage => CommandLine.usage
  | .version => CommandLine.version

end ServiceWiring.CommandLine
