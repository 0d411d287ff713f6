import SourceLens.Grammar.EcmaScript
import SourceLens.Grammar.Python
import SourceLens.Language

/-!
# The grammar of a language

JavaScript, TypeScript and TypeScript with JSX share one grammar.
-/
namespace SourceLens

/-- The grammar of a language. -/
def Language.grammar : Language → Grammar
  | javascript | typescript | tsx => EcmaScript.grammar
  | python => Python.grammar

end SourceLens
