import ProviderGen.Source.Rule

namespace ProviderGen.Source

open Pattern (name number string newline commas keep maybe must soft oneOf anyWord)
open ExpressionRule TargetRule

/-- A left-associative operation on the same rule. -/
def leftOperation (left : ExpressionRule) (operator : String) (right : ExpressionRule) :
    Alternative Rule :=
  .plain [left, operator, right]

/-- Whether a tree is a bare name of a statement of old that took its
argument without brackets. -/
def isLegacyName (tree : Tree) : Bool :=
  match tree with
  | .leaf token => token.kind == .name && (token.text == "print" || token.text == "exec")
  | .node .. => false

/-- Two expressions side by side lack a comma, if they stand in brackets. -/
def judgeMissingComma (parts : List Tree) (last : Token) : Verdict :=
  match parts with
  | first :: _ => if isLegacyName first || last.depth = 0 then .decline else .blame first.line
  | [] => .decline

/-- A legacy name and an expression lack brackets. -/
def judgeLegacy (parts : List Tree) (_ : Token) : Verdict :=
  match parts with
  | first :: _ => if isLegacyName first then .blame first.line else .decline
  | [] => .decline

def positionalArguments (arguments : Tree) : List Tree :=
  let parts := match arguments with
    | .node _ _ children => Tree.partsOfAll children
    | leaf => [leaf]
  parts.filter fun part =>
    match part with
    | .node .keywordArgument _ _ => false
    | _ => true

/-- A generator among other positional arguments lacks brackets. -/
def judgeBareGenerator (parts : List Tree) (_ : Token) : Verdict :=
  match (parts.head?.map positionalArguments).getD [] with
  | _ :: second :: rest => .blame ((second :: rest).getLast?.getD second).line
  | _ => .decline

def plainArgument : Pattern Rule :=
  keep 0
    [.choice [.same assignmentExpression, .keep 0 [expression, .notAhead ":="]], .notAhead "="]

/-- The start of a display or of a generator. -/
def bracket (words : List String) : Pattern Rule := anyWord words

def ExpressionRule.production : ExpressionRule → Production Rule
  | expressions => .of
      [.labelled .tuple
         [expression, .many1 (keep 1 [",", expression]), .optional ","],
       .labelled .tuple [expression, ","],
       .same expression]
  | expression => .kept
      [.diagnostic mistakenExpression,
       .diagnostic legacyExpression,
       .plain [disjunction, "if", disjunction, "else", expression],
       .same disjunction,
       .same ExpressionRule.lambda]
  | yieldExpression => .of
      [.plain ["yield", "from", expression],
       .plain ["yield", .optional starExpressions]]
  | starExpressions => .of
      [.labelled .tuple
         [starExpression, .many1 (keep 1 [",", starExpression]), .optional ","],
       .labelled .tuple [starExpression, ","],
       .same starExpression]
  | starExpression => .kept [.labelled .starred ["*", bitwiseOr], .same expression]
  | starNamedExpressions => .of
      [.labelled .sequence [commas starNamedExpression, .optional ","]]
  | starNamedExpression => .of [.labelled .starred ["*", bitwiseOr], .same namedExpression]
  | assignmentExpression => .of [.committed .plain [name, ":="] [expression]]
  | namedExpression => .of
      [.same assignmentExpression,
       .diagnostic mistakenNamedExpression,
       .keep 0 [expression, .notAhead ":="]]
  | disjunction => .kept
      [.plain [conjunction, .many1 (keep 1 ["or", conjunction])],
       .same conjunction]
  | conjunction => .kept
      [.plain [inversion, .many1 (keep 1 ["and", inversion])],
       .same inversion]
  | inversion => .kept [.plain ["not", inversion], .same comparison]
  | comparison => .of
      [.labelled .comparison [bitwiseOr, .many1 comparisonPair],
       .same bitwiseOr]
  | comparisonPair => .of
      [.plain ["==", bitwiseOr],
       .plain ["!=", bitwiseOr],
       .plain ["<=", bitwiseOr],
       .plain ["<", bitwiseOr],
       .plain [">=", bitwiseOr],
       .plain [">", bitwiseOr],
       .plain ["not", "in", bitwiseOr],
       .labelled .membership ["in", bitwiseOr],
       .plain ["is", "not", bitwiseOr],
       .plain ["is", bitwiseOr]]
  | bitwiseOr => .growing [leftOperation bitwiseOr "|" bitwiseXor, .same bitwiseXor]
  | bitwiseXor => .growing [leftOperation bitwiseXor "^" bitwiseAnd, .same bitwiseAnd]
  | bitwiseAnd => .growing [leftOperation bitwiseAnd "&" shift, .same shift]
  | shift => .growing
      [leftOperation shift "<<" sum, leftOperation shift ">>" sum, .same ExpressionRule.sum]
  | sum => .growing
      [leftOperation sum "+" term, leftOperation sum "-" term, .same ExpressionRule.term]
  | term => .growing
      [leftOperation term "*" factor,
       leftOperation term "/" factor,
       leftOperation term "//" factor,
       leftOperation term "%" factor,
       leftOperation term "@" factor,
       .same factor]
  | factor => .kept
      [.plain ["+", factor], .plain ["-", factor], .plain ["~", factor], .same power]
  | power => .of [.plain [awaitPrimary, "**", factor], .same awaitPrimary]
  | awaitPrimary => .kept [.plain ["await", primary], .same primary]
  | primary => .growing
      [.labelled .member [primary, ".", name],
       .plain [primary, generator],
       .plain [primary, "(", .optional arguments, ")"],
       .labelled .element [primary, "[", slices, "]"],
       .same atom]
  | slices => .of
      [.keep 0 [slice, .notAhead ","],
       .labelled .tuple [commas (oneOf [slice, starredExpression]), .optional ","]]
  | slice => .of
      [.plain
         [.optional expression, ":", .optional expression, maybe [":", .optional expression]],
       .same namedExpression]
  | atom => .of
      [.same name,
       .same "True",
       .same "False",
       .same "None",
       .keep 0 [.ahead string, strings],
       .same number,
       .keep 0 [.ahead "(", oneOf [ExpressionRule.tuple, ExpressionRule.group, generator]],
       .keep 0 [.ahead "[", oneOf [ExpressionRule.list, listComprehension]],
       .keep 0 [.ahead "\x7b", oneOf [dict, ExpressionRule.set, dictComprehension, setComprehension]],
       .same "..."]
  | group => .of
      [.keep 1 ["(", oneOf [yieldExpression, namedExpression], ")"],
       .diagnostic mistakenGroup]
  | lambda => .of
      [.plain ["lambda", .optional (.rule (.parameter .lambda .parameterList)), ":", expression]]
  | strings => .kept [.mk false [.many1 string] [] .strings]
  | list => .of [.labelled .list ["[", .optional starNamedExpressions, "]"]]
  | tuple => .of
      [.labelled .tuple
        ["(", maybe [starNamedExpression, ",", .optional starNamedExpressions], ")"]]
  | set => .of [.plain ["\x7b", starNamedExpressions, "\x7d"]]
  | dict => .of
      [.plain ["\x7b", .optional pairs, "\x7d"],
       .plain ["\x7b", mistakenPairs, "\x7d"]]
  | pairs => .of [.plain [commas pair, .optional ","]]
  | pair => .of [.plain ["**", bitwiseOr], .same keyValue]
  | keyValue => .of [.plain [expression, ":", expression]]
  | forIfClauses => .of [.plain [.many1 forIfClause]]
  | forIfClause => .of
      [.committed .plain ["async", "for", starTargets, "in"]
         [disjunction, .many (keep 1 ["if", disjunction])],
       .committed .plain ["for", starTargets, "in"]
         [disjunction, .many (keep 1 ["if", disjunction])],
       .diagnostic mistakenForTarget]
  | listComprehension => .of
      [.plain ["[", namedExpression, forIfClauses, "]"],
       .diagnostic mistakenComprehension]
  | setComprehension => .of
      [.plain ["\x7b", namedExpression, forIfClauses, "\x7d"],
       .diagnostic mistakenComprehension]
  | generator => .of
      [.plain
         ["(", .choice [.same assignmentExpression, .keep 0 [expression, .notAhead ":="]],
          forIfClauses, ")"],
       .diagnostic mistakenComprehension]
  | dictComprehension => .of
      [.plain ["\x7b", keyValue, forIfClauses, "\x7d"],
       .diagnostic mistakenDictComprehension]
  | arguments => .kept
      [.keep 0 [callArguments, .optional ",", .ahead ")"],
       .diagnostic mistakenArguments]
  | callArguments => .of
      [.plain [commas (oneOf [starredExpression, plainArgument]), maybe [",", keywordArguments]],
       .plain [keywordArguments]]
  | keywordArguments => .of
      [.labelled .sequence [commas keywordOrStarred, ",", commas keywordOrDoubleStarred],
       .labelled .sequence [commas keywordOrStarred],
       .labelled .sequence [commas keywordOrDoubleStarred]]
  | starredExpression => .of [.labelled .starred ["*", expression], .blamingLast ["*"]]
  | keywordOrStarred => .of
      [.diagnostic mistakenKeyword,
       .labelled .keywordArgument [name, "=", expression],
       .same starredExpression]
  | keywordOrDoubleStarred => .of
      [.diagnostic mistakenKeyword,
       .labelled .keywordArgument [name, "=", expression],
       .labelled .keywordArgument ["**", expression]]
  | quietExpression =>
      { keeping := .fresh
        alternatives :=
          [.plain [disjunction, "if", disjunction, "else", expression],
           .same disjunction,
           .same ExpressionRule.lambda]
        silent := true }
  | mistakenExpression => .of
      [.mistake
         [.notAhead (.choice [.plain [name, string], .same (.token .anySoftWord)]),
          disjunction, quietExpression]
         judgeMissingComma,
       .blaming 0 [disjunction, "if", disjunction, .notAhead (anyWord ["else", ":"])]]
  | legacyExpression => .of
      [.mistake [name, .notAhead "(", starExpressions] judgeLegacy]
  | mistakenNamedExpression => .kept
      [.blaming 0 [expression, ":=", expression],
       .blaming 0 [name, "=", bitwiseOr, .notAhead (anyWord ["=", ":="])],
       .blaming 0
         [.notAhead
            (oneOf [ExpressionRule.list, ExpressionRule.tuple, generator, "True", "None", "False"]),
          bitwiseOr, "=", bitwiseOr, .notAhead (anyWord ["=", ":="])]]
  | mistakenGroup => .of
      [.blaming 1 ["(", starredExpression, ")"],
       .blaming 1 ["(", "**", expression, ")"]]
  | mistakenPairs => .of
      [.plain [commas pair, ",", mistakenPair],
       .blaming 2 [expression, ":", "*", bitwiseOr],
       .blaming 1 [expression, ":", .ahead (anyWord ["\x7d", ","])]]
  | mistakenPair => .of
      [.blaming 0 [expression, .notAhead ":"],
       .blaming 2 [expression, ":", "*", bitwiseOr],
       .blaming 1 [expression, ":", .ahead (anyWord ["\x7d", ","])]]
  | mistakenComprehension => .of
      [.blaming 1 [bracket ["[", "(", "\x7b"], starredExpression, forIfClauses],
       .blaming 1
         [bracket ["[", "\x7b"], starNamedExpression, ",", starNamedExpressions, forIfClauses],
       .blaming 1 [bracket ["[", "\x7b"], starNamedExpression, ",", forIfClauses]]
  | mistakenDictComprehension => .of [.blaming 1 ["\x7b", "**", bitwiseOr, forIfClauses, "\x7d"]]
  | mistakenForTarget => .of
      [.blamingTarget .loop 2 [.optional "async", "for", starExpressions]]
  | mistakenArguments => .of
      [.blaming 1
         [.choice
            [.plain [commas (oneOf [starredExpression, plainArgument]), ",", keywordArguments],
             .same keywordArguments],
          ",", commas (keep 0 [starredExpression, .notAhead "="])],
       .blaming 0
         [expression, forIfClauses, ",",
          .optional (.choice [.same callArguments, .plain [expression, forIfClauses]])],
       .blaming 0 [name, "=", expression, forIfClauses],
       .mistake [callArguments, forIfClauses] judgeBareGenerator,
       .blaming 2 [callArguments, ",", expression, forIfClauses],
       .blamingLast [callArguments, ",", callArguments]]
  | mistakenKeyword => .of
      [.blaming 0 [anyWord ["True", "False", "None"], "="],
       .blaming 0 [name, "=", expression, forIfClauses],
       .blaming 0 [.notAhead (.group [name, "="]), expression, "="]]

end ProviderGen.Source
