import ProviderGen.Source.Matching

namespace ProviderGen.Source

/-- Rules for whole texts, for blocks and for statements on one line. -/
inductive StatementRule
  | file
  | statements
  | statement
  | simpleStatements
  | simpleStatement
  | block
  | assignment
  | assignedValue
  | augmentedOperator
  | returnStatement
  | raiseStatement
  | globalStatement
  | nonlocalStatement
  | deleteStatement
  | assertStatement
  | importStatement
  | importName
  | importFrom
  | importFromTargets
  | importFromNames
  | importFromName
  | dottedAsNames
  | dottedAsName
  | dottedName
  | mistakenBlock
  | mistakenAssignment
  | mistakenAnnotationTarget
  | mistakenDelete
  | mistakenImportTargets
  deriving DecidableEq, Repr

/-- Rules for statements with blocks. -/
inductive CompoundRule
  | compoundStatement
  | decorators
  | classDefinition
  | plainClass
  | functionDefinition
  | plainFunction
  | functionTypeComment
  | ifStatement
  | elifStatement
  | elseBlock
  | whileStatement
  | forStatement
  | withStatement
  | withItem
  | tryStatement
  | exceptBlock
  | exceptStarBlock
  | finallyBlock
  | matchStatement
  | subject
  | caseBlock
  | caseGuard
  | mistakenClass
  | mistakenFunction
  | mistakenIf
  | mistakenElif
  | mistakenElse
  | mistakenWhile
  | mistakenFor
  | mistakenWith
  | unindentedWith
  | mistakenWithItem
  | mistakenTry
  | mistakenExcept
  | unindentedExcept
  | unindentedExceptStar
  | mistakenFinally
  | mistakenMatch
  | mistakenCase
  deriving DecidableEq, Repr

inductive ExpressionRule
  | expressions
  | expression
  | yieldExpression
  | starExpressions
  | starExpression
  | starNamedExpressions
  | starNamedExpression
  | assignmentExpression
  | namedExpression
  | disjunction
  | conjunction
  | inversion
  | comparison
  | comparisonPair
  | bitwiseOr
  | bitwiseXor
  | bitwiseAnd
  | shift
  | sum
  | term
  | factor
  | power
  | awaitPrimary
  | primary
  | slices
  | slice
  | atom
  | group
  | lambda
  | strings
  | list
  | tuple
  | set
  | dict
  | pairs
  | pair
  | keyValue
  | forIfClauses
  | forIfClause
  | listComprehension
  | setComprehension
  | generator
  | dictComprehension
  | arguments
  | callArguments
  | keywordArguments
  | starredExpression
  | keywordOrStarred
  | keywordOrDoubleStarred
  /-- An expression below which no mistakes are looked for. -/
  | quietExpression
  | mistakenExpression
  | legacyExpression
  | mistakenNamedExpression
  | mistakenGroup
  | mistakenPairs
  | mistakenPair
  | mistakenComprehension
  | mistakenDictComprehension
  | mistakenForTarget
  | mistakenArguments
  | mistakenKeyword
  deriving DecidableEq, Repr

inductive Site
  | function
  | lambda
  deriving DecidableEq, Repr

inductive ParameterRule
  | parameterList
  | parameters
  | slashWithoutDefault
  | slashWithDefault
  | starAndAfter
  | doubleStar
  | withoutDefault
  | starAnnotated
  | withDefault
  | maybeDefault
  | parameter
  | starParameter
  | typing
  | starTyping
  | default
  | mistakenParameters
  | mistakenDefaults
  | mistakenDefault
  | mistakenStar
  | mistakenDoubleStar
  deriving DecidableEq, Repr

/-- Rules for the targets of assignments, loops and deletions. -/
inductive TargetRule
  | starTargets
  | starTargetsInList
  | starTargetsInTuple
  | starTarget
  | targetWithStarAtom
  | starAtom
  | singleTarget
  | singleSubscriptOrAttribute
  | targetPrimary
  | targetGoesOn
  | deleteTargets
  | deleteTarget
  | deleteAtom
  deriving DecidableEq, Repr

inductive MatchRule
  | patterns
  | pattern
  | asPattern
  | orPattern
  | closedPattern
  | literalPattern
  | literalExpression
  | complexNumber
  | signedNumber
  | signedRealNumber
  | realNumber
  | imaginaryNumber
  | capturePattern
  | captureTarget
  | wildcardPattern
  | valuePattern
  | dottedValue
  | nameOrDotted
  | groupPattern
  | sequencePattern
  | openSequence
  | maybeSequence
  | maybeStarPattern
  | starPattern
  | mappingPattern
  | mappingItems
  | keyPattern
  | doubleStarPattern
  | classPattern
  | positionalPatterns
  | keywordPatterns
  | keywordPattern
  | mistakenAsPattern
  | mistakenClassPattern
  | mistakenClassArguments
  deriving DecidableEq, Repr

/-- The rules of the grammar. -/
inductive Rule
  | statement (rule : StatementRule)
  | compound (rule : CompoundRule)
  | expression (rule : ExpressionRule)
  | parameter (site : Site) (rule : ParameterRule)
  | target (rule : TargetRule)
  | pattern (rule : MatchRule)
  deriving DecidableEq, Repr

instance : Coe StatementRule (Pattern Rule) := ⟨fun rule => .rule (.statement rule)⟩

instance : Coe CompoundRule (Pattern Rule) := ⟨fun rule => .rule (.compound rule)⟩

instance : Coe ExpressionRule (Pattern Rule) := ⟨fun rule => .rule (.expression rule)⟩

instance : Coe TargetRule (Pattern Rule) := ⟨fun rule => .rule (.target rule)⟩

instance : Coe MatchRule (Pattern Rule) := ⟨fun rule => .rule (.pattern rule)⟩

end ProviderGen.Source
