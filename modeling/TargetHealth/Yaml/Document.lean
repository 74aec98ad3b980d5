import TargetHealth.Yaml.Node
import TargetHealth.Yaml.Token.Lexer

namespace TargetHealth.Yaml

def read? (text : String) : Option Node := do
  Node.ofTokens? (← tokens? text.toList)

end TargetHealth.Yaml
