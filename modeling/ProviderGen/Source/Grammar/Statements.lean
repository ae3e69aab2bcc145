import ProviderGen.Source.Rule

namespace ProviderGen.Source

open Pattern (name newline indent dedent commas keep maybe oneOf anyWord)
open StatementRule CompoundRule ExpressionRule TargetRule

def valueOrYield : Pattern Rule := oneOf [yieldExpression, starExpressions]

/-- The rules for whole texts, for blocks and for statements on one line. -/
def StatementRule.production : StatementRule → Production Rule
  | file => .of [.labelled .module [.optional statements, .ofKind .finish]]
  | statements => .of [.labelled .block [.many1 statement]]
  | statement => .of [.same compoundStatement, .same simpleStatements]
  | simpleStatements => .of
      [.labelled .block [simpleStatement, .notAhead ";", newline],
       .labelled .block [.separated (.word ";") simpleStatement, .optional ";", newline]]
  | simpleStatement => .kept
      [.same assignment,
       .same starExpressions,
       .keep 0 [.ahead "return", returnStatement],
       .keep 0 [.ahead (anyWord ["import", "from"]), importStatement],
       .keep 0 [.ahead "raise", raiseStatement],
       .plain ["pass"],
       .keep 0 [.ahead "del", deleteStatement],
       .keep 0 [.ahead "yield", yieldExpression],
       .keep 0 [.ahead "assert", assertStatement],
       .plain ["break"],
       .plain ["continue"],
       .keep 0 [.ahead "global", globalStatement],
       .keep 0 [.ahead "nonlocal", nonlocalStatement]]
  | block => .kept
      [.keep 2 [newline, indent, statements, dedent],
       .same simpleStatements,
       .diagnostic mistakenBlock]
  | assignment => .of
      [.plain [name, ":", expression, maybe ["=", assignedValue]],
       .plain
         [.choice [.keep 1 ["(", singleTarget, ")"], .same singleSubscriptOrAttribute],
          ":", expression, maybe ["=", assignedValue]],
       .plain
         [.many1 (keep 0 [starTargets, "="]), valueOrYield, .notAhead "=",
          .optional (.token .typeComment)],
       .committed .plain [singleTarget, augmentedOperator] [valueOrYield],
       .diagnostic mistakenAssignment]
  | assignedValue => .of [.same yieldExpression, .same starExpressions]
  | augmentedOperator => .of
      [.same (anyWord
        ["+=", "-=", "*=", "@=", "/=", "%=", "&=", "|=", "^=", "<<=", ">>=", "**=", "//="])]
  | returnStatement => .of [.plain ["return", .optional starExpressions]]
  | raiseStatement => .of
      [.plain ["raise", expression, maybe ["from", expression]],
       .plain ["raise"]]
  | globalStatement => .of [.plain ["global", commas name]]
  | nonlocalStatement => .of [.plain ["nonlocal", commas name]]
  | deleteStatement => .of
      [.plain ["del", deleteTargets, .ahead (oneOf [";", newline])],
       .diagnostic mistakenDelete]
  | assertStatement => .of [.plain ["assert", expression, maybe [",", expression]]]
  | importStatement => .of [.same importName, .same importFrom]
  | importName => .of [.plain ["import", dottedAsNames]]
  | importFrom => .of
      [.plain ["from", .many (anyWord [".", "..."]), dottedName, "import", importFromTargets],
       .plain ["from", .many1 (anyWord [".", "..."]), "import", importFromTargets]]
  | importFromTargets => .of
      [.plain ["(", importFromNames, .optional ",", ")"],
       .plain [importFromNames, .notAhead ","],
       .plain ["*"],
       .diagnostic mistakenImportTargets]
  | importFromNames => .of [.plain [commas importFromName]]
  | importFromName => .of [.plain [name, maybe ["as", name]]]
  | dottedAsNames => .of [.plain [commas dottedAsName]]
  | dottedAsName => .of [.plain [dottedName, maybe ["as", name]]]
  | dottedName => .growing [.plain [dottedName, ".", name], .same name]
  | mistakenAssignment => .of
      [.blaming 0 [mistakenAnnotationTarget, ":", expression],
       .blaming 0 [starNamedExpression, ",", .many starNamedExpressions, ":", expression],
       .blaming 0 [expression, ":", expression],
       .blamingTarget .assignment 1 [.many (keep 0 [starTargets, "="]), starExpressions, "="],
       .blaming 1 [.many (keep 0 [starTargets, "="]), yieldExpression, "="],
       .blaming 0 [starExpressions, augmentedOperator, valueOrYield]]
  | mistakenAnnotationTarget => .of
      [.same ExpressionRule.list,
       .same ExpressionRule.tuple,
       .keep 1 ["(", mistakenAnnotationTarget, ")"]]
  | mistakenDelete => .of [.blamingTarget .deletion 1 ["del", starExpressions]]
  | mistakenImportTargets => .of [.blamingLast [importFromNames, ",", newline]]
  | mistakenBlock => .of [.blamingLast [newline, .notAhead indent]]

end ProviderGen.Source
