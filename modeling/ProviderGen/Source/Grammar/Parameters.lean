import ProviderGen.Source.Rule

namespace ProviderGen.Source

open Pattern (name commas keep maybe oneOf anyWord)
open ExpressionRule

/-- What stands after the last parameter. -/
def Site.terminator : Site → Pattern Rule
  | .function => ")"
  | .lambda => ":"

/-- A comment that may follow a parameter of a function. -/
def Site.typeComment : Site → List (Pattern Rule)
  | .function => [.optional (.token .typeComment)]
  | .lambda => []

/-- A parameter with what closes it: a comma, or the end of all parameters ahead. -/
def closed (site : Site) (items : List (Pattern Rule)) : List (Alternative Rule) :=
  let comma : Pattern Rule := ","
  [.plain (items ++ comma :: site.typeComment),
   .plain (items ++ site.typeComment ++ [.ahead site.terminator])]

def ParameterRule.production (site : Site) (rule : ParameterRule) : Production Rule :=
  let self := fun (rule : ParameterRule) => Pattern.rule (Rule.parameter site rule)
  let positionalOnly := oneOf [self .slashWithoutDefault, self .slashWithDefault]
  match rule with
  | .parameterList => .of [.diagnostic (self .mistakenParameters), .same (self .parameters)]
  | .parameters => .of
      [.plain
         [self .slashWithoutDefault, .many (self .withoutDefault), .many (self .withDefault),
          .optional (self .starAndAfter)],
       .plain
         [self .slashWithDefault, .many (self .withDefault), .optional (self .starAndAfter)],
       .plain
         [.many1 (self .withoutDefault), .many (self .withDefault),
          .optional (self .starAndAfter)],
       .plain [.many1 (self .withDefault), .optional (self .starAndAfter)],
       .plain [self .starAndAfter]]
  | .slashWithoutDefault => .of
      [.plain [.many1 (self .withoutDefault), "/", ","],
       .plain [.many1 (self .withoutDefault), "/", .ahead site.terminator]]
  | .slashWithDefault => .of
      [.plain [.many (self .withoutDefault), .many1 (self .withDefault), "/", ","],
       .plain
         [.many (self .withoutDefault), .many1 (self .withDefault), "/",
          .ahead site.terminator]]
  | .starAndAfter =>
      let annotated : List (Alternative Rule) := match site with
        | .function =>
            [.plain
              ["*", self .starAnnotated, .many (self .maybeDefault),
               .optional (self .doubleStar)]]
        | .lambda => []
      .of
        ([.diagnostic (self .mistakenStar),
          .plain
            ["*", self .withoutDefault, .many (self .maybeDefault), .optional (self .doubleStar)]]
          ++ annotated ++
         [.plain ["*", ",", .many1 (self .maybeDefault), .optional (self .doubleStar)],
          .same (self .doubleStar)])
  | .doubleStar => .of
      [.diagnostic (self .mistakenDoubleStar),
       .plain ["**", self .withoutDefault]]
  | .withoutDefault => .of (closed site [self .parameter])
  | .starAnnotated => .of (closed site [self .starParameter])
  | .withDefault => .of (closed site [self .parameter, self .default])
  | .maybeDefault => .of (closed site [self .parameter, .optional (self .default)])
  | .parameter =>
      match site with
      | .function => .of [.plain [name, .optional (self .typing)]]
      | .lambda => .of [.same name]
  | .starParameter => .of [.plain [name, self .starTyping]]
  | .typing => .of [.keep 1 [":", expression]]
  | .starTyping => .of [.keep 1 [":", starExpression]]
  | .default => .of [.keep 1 ["=", expression], .diagnostic (self .mistakenDefault)]
  | .mistakenParameters =>
      let bracketed : List (Pattern Rule) := match site with
        | .function => [.many1 (self .withoutDefault)]
        | .lambda => [commas (self .parameter)]
      let opening : List (Pattern Rule) := [.many (self .withoutDefault), "("]
      let ending : List (Pattern Rule) := [.optional ",", ")"]
      .of
        [.blaming 2
           [.many (self .withoutDefault), self .mistakenDefaults, self .withoutDefault],
         .blaming 1 (opening ++ bracketed ++ ending),
         .blaming 0 ["/", ","],
         .blaming 2 [positionalOnly, .many (self .maybeDefault), "/"],
         .blaming 5
           [.optional positionalOnly, .many (self .maybeDefault), "*",
            oneOf [",", self .withoutDefault], .many (self .maybeDefault), "/"],
         .blaming 2 [.many1 (self .maybeDefault), "/", "*"]]
  | .mistakenDefaults => .of
      [.plain [self .slashWithDefault], .plain [.many1 (self .withDefault)]]
  | .mistakenDefault => .of [.blaming 0 ["=", .ahead (anyWord [")", ","])]]
  | .mistakenStar =>
      let bare : List (Alternative Rule) := match site with
        | .function =>
            [.blaming 0
               ["*", oneOf [")", .group [",", anyWord [")", "**"]]]],
             .blamingLast ["*", ",", .token .typeComment]]
        | .lambda => [.blamingLast ["*", oneOf [":", .group [",", anyWord [":", "**"]]]]]
      .of
        (bare ++
         [.blaming 2 ["*", self .parameter, "="],
          .blaming 3
            ["*", oneOf [self .withoutDefault, ","], .many (self .maybeDefault), "*",
             oneOf [self .withoutDefault, ","]]])
  | .mistakenDoubleStar => .of
      [.blaming 2 ["**", self .parameter, "="],
       .blaming 3 ["**", self .parameter, ",", self .parameter],
       .blaming 3 ["**", self .parameter, ",", anyWord ["*", "**", "/"]]]

end ProviderGen.Source
