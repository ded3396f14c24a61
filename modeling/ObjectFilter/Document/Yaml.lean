import ObjectFilter.Document.Yaml.Token.Lexer
import ObjectFilter.Document.Yaml.Tree.Parser

/-!
# YAML

Documents in YAML: block and flow lists and maps, plain and quoted scalars, literal and folded blocks,
anchors, aliases, tags, directives and comments.  A text is first cut into tokens, and the tokens are
then put together to a tree.
-/

namespace ObjectFilter.Document.Yaml

def read (s : String) : Option Tree :=
  let cs := normalized s.toList
  if cs.all isAllowed then (tokens cs).bind Tree.ofTokens? else none

end ObjectFilter.Document.Yaml
