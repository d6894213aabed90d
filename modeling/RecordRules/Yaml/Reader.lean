import RecordRules.Yaml.Root
import RecordRules.Yaml.Value

/-!
# Reading YAML

A text is taken apart into tokens, the tokens into the nodes of one document,
and its root stands for a value.
-/

namespace RecordRules.Yaml

def read? (text : String) : Option Json := (root? text).bind Node.value?

end RecordRules.Yaml
