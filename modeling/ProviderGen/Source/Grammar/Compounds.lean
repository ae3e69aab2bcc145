import ProviderGen.Source.Rule

namespace ProviderGen.Source

open Pattern (name newline indent dedent commas keep maybe must soft oneOf anyWord)
open StatementRule CompoundRule ExpressionRule TargetRule MatchRule

/-- A statement that ends where its block has to follow. -/
def blamingUnindented (header : List (Pattern Rule)) : Alternative Rule :=
  let colon : Pattern Rule := ":"
  .blamingLast (header ++ [colon, newline, .notAhead indent])

/-- The items of a `with` statement, as they may be written at most. -/
def looseWithItems (item : Pattern Rule) : Pattern Rule :=
  commas (.group [item, maybe ["as", starTarget]])

/-- The rules for statements with blocks. -/
def CompoundRule.production : CompoundRule → Production Rule
  | compoundStatement => .of
      [.keep 0 [.ahead (anyWord ["def", "@", "async"]), functionDefinition],
       .keep 0 [.ahead "if", ifStatement],
       .keep 0 [.ahead (anyWord ["class", "@"]), classDefinition],
       .keep 0 [.ahead (anyWord ["with", "async"]), withStatement],
       .keep 0 [.ahead (anyWord ["for", "async"]), forStatement],
       .keep 0 [.ahead "try", tryStatement],
       .keep 0 [.ahead "while", whileStatement],
       .same matchStatement]
  | decorators => .of [.labelled .sequence [.many1 (keep 1 ["@", namedExpression, newline])]]
  | classDefinition => .of [.labelled .decorated [decorators, plainClass], .same plainClass]
  | plainClass => .of
      [.diagnostic mistakenClass,
       .labelled .classDef ["class", name, maybe ["(", .optional arguments, ")"], ":", block]]
  | functionDefinition => .of
      [.labelled .decorated [decorators, plainFunction], .same plainFunction]
  | plainFunction =>
      let signature : List (Pattern Rule) :=
        ["def", name, must "(", .optional (.rule (.parameter .function .parameterList)), ")",
         maybe ["->", expression], must ":", .optional functionTypeComment, block]
      .of
        [.diagnostic mistakenFunction,
         .labelled .functionDef signature,
         .labelled .asyncFunctionDef ("async" :: signature)]
  | functionTypeComment => .of
      [.keep 1 [newline, .token .typeComment, .ahead (.group [newline, indent])],
       .plain [.token .typeComment]]
  | ifStatement => .of
      [.diagnostic mistakenIf,
       .plain ["if", namedExpression, ":", block, elifStatement],
       .plain ["if", namedExpression, ":", block, .optional elseBlock]]
  | elifStatement => .of
      [.diagnostic mistakenElif,
       .plain ["elif", namedExpression, ":", block, elifStatement],
       .plain ["elif", namedExpression, ":", block, .optional elseBlock]]
  | elseBlock => .of [.diagnostic mistakenElse, .plain ["else", must ":", block]]
  | whileStatement => .of
      [.diagnostic mistakenWhile,
       .plain ["while", namedExpression, ":", block, .optional elseBlock]]
  | forStatement =>
      let rest : List (Pattern Rule) :=
        [starExpressions, must ":", .optional (.token .typeComment), block, .optional elseBlock]
      .of
        [.diagnostic mistakenFor,
         .committed .plain ["for", starTargets, "in"] rest,
         .committed .plain ["async", "for", starTargets, "in"] rest,
         .diagnostic mistakenForTarget]
  | withStatement =>
      let bracketed : List (Pattern Rule) :=
        ["with", "(", commas withItem, .optional ",", ")", ":", block]
      let bare : List (Pattern Rule) :=
        ["with", commas withItem, ":", .optional (.token .typeComment), block]
      .of
        [.diagnostic unindentedWith,
         .plain bracketed,
         .plain bare,
         .plain ("async" :: bracketed),
         .plain ("async" :: bare),
         .diagnostic mistakenWith]
  | withItem => .of
      [.plain [expression, "as", starTarget, .ahead (anyWord [",", ")", ":"])],
       .diagnostic mistakenWithItem,
       .same expression]
  | tryStatement => .of
      [.diagnostic mistakenTry,
       .plain ["try", must ":", block, finallyBlock],
       .plain ["try", must ":", block, .many1 exceptBlock, .optional elseBlock,
         .optional finallyBlock],
       .plain ["try", must ":", block, .many1 exceptStarBlock, .optional elseBlock,
         .optional finallyBlock]]
  | exceptBlock => .of
      [.diagnostic unindentedExcept,
       .plain ["except", expression, maybe ["as", name], ":", block],
       .plain ["except", ":", block],
       .diagnostic mistakenExcept]
  | exceptStarBlock => .of
      [.diagnostic unindentedExceptStar,
       .plain ["except", "*", expression, maybe ["as", name], ":", block],
       .diagnostic mistakenExcept]
  | finallyBlock => .of [.diagnostic mistakenFinally, .plain ["finally", must ":", block]]
  | matchStatement => .of
      [.plain [soft "match", subject, ":", newline, indent, .many1 caseBlock, dedent],
       .diagnostic mistakenMatch]
  | subject => .of
      [.labelled .tuple [starNamedExpression, ",", .optional starNamedExpressions],
       .same namedExpression]
  | caseBlock => .of
      [.diagnostic mistakenCase,
       .plain [soft "case", patterns, .optional caseGuard, ":", block]]
  | caseGuard => .of [.keep 1 ["if", namedExpression]]
  | mistakenClass =>
      let header : List (Pattern Rule) :=
        ["class", name, maybe ["(", .optional arguments, ")"]]
      .of [.blamingLast (header ++ [newline]), blamingUnindented header]
  | mistakenFunction => .of
      [blamingUnindented
        [.optional "async", "def", name, "(",
         .optional (.rule (.parameter .function .parameterList)), ")",
         maybe ["->", expression]]]
  | mistakenIf => .of
      [.blamingLast ["if", namedExpression, newline],
       blamingUnindented ["if", namedExpression]]
  | mistakenElif => .of
      [.blamingLast ["elif", namedExpression, newline],
       blamingUnindented ["elif", namedExpression]]
  | mistakenElse => .of [blamingUnindented ["else"]]
  | mistakenWhile => .of
      [.blamingLast ["while", namedExpression, newline],
       blamingUnindented ["while", namedExpression]]
  | mistakenFor => .of
      [blamingUnindented [.optional "async", "for", starTargets, "in", starExpressions]]
  | mistakenWith => .of
      [.blamingLast [.optional "async", "with", looseWithItems expression, newline],
       .blamingLast
         [.optional "async", "with", "(", looseWithItems expressions, .optional ",", ")", newline]]
  | unindentedWith => .of
      [blamingUnindented [.optional "async", "with", looseWithItems expression],
       blamingUnindented
         [.optional "async", "with", "(", looseWithItems expressions, .optional ",", ")"]]
  | mistakenWithItem => .of
      [.blamingTarget .assignment 2
        [expression, "as", expression, .ahead (anyWord [",", ")", ":"])]]
  | mistakenTry => .of
      [blamingUnindented ["try"],
       .blamingLast ["try", ":", block, .notAhead (anyWord ["except", "finally"])],
       .blamingLast
         ["try", ":", .many block,
          .choice
            [.plain [.many1 exceptBlock, exceptStarBlock],
             .plain [.many1 exceptStarBlock, exceptBlock]],
          .many block]]
  | mistakenExcept => .of
      [.blaming 2
         ["except", .optional "*", expression, ",", expressions, maybe ["as", name], ":"],
       .blamingLast ["except", .optional "*", expression, maybe ["as", name], newline],
       .blamingLast ["except", newline],
       .blamingLast ["except", "*", oneOf [newline, ":"]]]
  | unindentedExcept => .of
      [blamingUnindented ["except", expression, maybe ["as", name]],
       blamingUnindented ["except"]]
  | unindentedExceptStar => .of
      [blamingUnindented ["except", "*", expression, maybe ["as", name]]]
  | mistakenFinally => .of [blamingUnindented ["finally"]]
  | mistakenMatch => .of
      [.blamingLast [soft "match", subject, newline],
       blamingUnindented [soft "match", subject]]
  | mistakenCase => .of
      [.blamingLast [soft "case", patterns, .optional caseGuard, newline],
       blamingUnindented [soft "case", patterns, .optional caseGuard]]

end ProviderGen.Source
