import ProviderGen.Source.Rule

namespace ProviderGen.Source

open Pattern (name number commas keep maybe soft oneOf anyWord)
open ExpressionRule MatchRule

/-- Whether a tree is an imaginary number. -/
def isImaginary (tree : Tree) : Bool :=
  match tree with
  | .leaf token => Number.isImaginary token.text
  | .node .. => false

/-- A mistake at the first of the positional patterns that follow others. -/
def judgeLatePositional (parts : List Tree) (_ : Token) : Verdict :=
  match (parts[2]?.map (·.parts)).getD [] with
  | first :: _ => .blame first.line
  | [] => .decline

/-- The words that are values of their own. -/
def constants : List (Alternative Rule) := [.same "None", .same "True", .same "False"]

def MatchRule.production : MatchRule → Production Rule
  | patterns => .of [.same openSequence, .same MatchRule.pattern]
  | pattern => .of [.same asPattern, .same orPattern]
  | asPattern => .of [.plain [orPattern, "as", captureTarget], .diagnostic mistakenAsPattern]
  | orPattern => .of [.plain [.separated (.word "|") closedPattern]]
  | closedPattern => .kept
      [.same literalPattern,
       .same capturePattern,
       .same wildcardPattern,
       .same valuePattern,
       .same groupPattern,
       .same sequencePattern,
       .same mappingPattern,
       .same classPattern]
  | literalPattern => .of
      ([.keep 0 [signedNumber, .notAhead (anyWord ["+", "-"])],
        .same complexNumber,
        .same strings] ++ constants)
  | literalExpression => .of
      ([.keep 0 [signedNumber, .notAhead (anyWord ["+", "-"])],
        .same complexNumber,
        .same strings] ++ constants)
  | complexNumber => .of
      [.plain [signedRealNumber, "+", imaginaryNumber],
       .plain [signedRealNumber, "-", imaginaryNumber]]
  | signedNumber => .of [.same number, .plain ["-", number]]
  | signedRealNumber => .of [.same realNumber, .plain ["-", realNumber]]
  | realNumber => .of [.mk false [number] [] (.checked 0 fun tree => !isImaginary tree)]
  | imaginaryNumber => .of [.mk false [number] [] (.checked 0 isImaginary)]
  | capturePattern => .of [.plain [captureTarget]]
  | captureTarget => .of
      [.keep 0 [.notAhead (soft "_"), name, .notAhead (anyWord [".", "(", "="])]]
  | wildcardPattern => .of [.plain [soft "_"]]
  | valuePattern => .of [.keep 0 [dottedValue, .notAhead (anyWord [".", "(", "="])]]
  | dottedValue => .growing [.plain [nameOrDotted, ".", name]]
  | nameOrDotted => .of [.same dottedValue, .same name]
  | groupPattern => .of [.keep 1 ["(", MatchRule.pattern, ")"]]
  | sequencePattern => .of
      [.plain ["[", .optional maybeSequence, "]"],
       .plain ["(", .optional openSequence, ")"]]
  | openSequence => .of [.plain [maybeStarPattern, ",", .optional maybeSequence]]
  | maybeSequence => .of [.plain [commas maybeStarPattern, .optional ","]]
  | maybeStarPattern => .of [.same starPattern, .same MatchRule.pattern]
  | starPattern => .kept [.plain ["*", captureTarget], .plain ["*", wildcardPattern]]
  | mappingPattern => .of
      [.plain ["\x7b", "\x7d"],
       .plain ["\x7b", doubleStarPattern, .optional ",", "\x7d"],
       .plain ["\x7b", mappingItems, ",", doubleStarPattern, .optional ",", "\x7d"],
       .plain ["\x7b", mappingItems, .optional ",", "\x7d"]]
  | mappingItems => .of [.plain [commas keyPattern]]
  | keyPattern => .of [.plain [oneOf [literalExpression, dottedValue], ":", MatchRule.pattern]]
  | doubleStarPattern => .of [.plain ["**", captureTarget]]
  | classPattern => .of
      [.plain [nameOrDotted, "(", ")"],
       .plain [nameOrDotted, "(", positionalPatterns, .optional ",", ")"],
       .plain [nameOrDotted, "(", keywordPatterns, .optional ",", ")"],
       .plain
         [nameOrDotted, "(", positionalPatterns, ",", keywordPatterns, .optional ",", ")"],
       .diagnostic mistakenClassPattern]
  | positionalPatterns => .of [.labelled .sequence [commas MatchRule.pattern]]
  | keywordPatterns => .of [.labelled .sequence [commas keywordPattern]]
  | keywordPattern => .of [.plain [name, "=", MatchRule.pattern]]
  | mistakenAsPattern => .of
      [.blaming 2 [orPattern, "as", soft "_"],
       .blaming 2 [orPattern, "as", .notAhead name, expression]]
  | mistakenClassPattern => .of
      [.mistake [nameOrDotted, "(", mistakenClassArguments] judgeLatePositional]
  | mistakenClassArguments => .of
      [.keep 3
        [maybe [positionalPatterns, ","], keywordPatterns, ",", positionalPatterns]]

end ProviderGen.Source
