import ProviderGen.Source.Grammar.Compounds
import ProviderGen.Source.Grammar.Expressions
import ProviderGen.Source.Grammar.Matches
import ProviderGen.Source.Grammar.Parameters
import ProviderGen.Source.Grammar.Statements
import ProviderGen.Source.Grammar.Targets

namespace ProviderGen.Source

/-- The definition of each rule of the grammar. -/
def Rule.production : Rule → Production Rule
  | statement rule => rule.production
  | compound rule => rule.production
  | expression rule => rule.production
  | parameter site rule => rule.production site
  | target rule => rule.production
  | pattern rule => rule.production

end ProviderGen.Source
