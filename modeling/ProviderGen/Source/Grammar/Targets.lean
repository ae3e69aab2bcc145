import ProviderGen.Source.Rule

namespace ProviderGen.Source

open Pattern (name commas keep maybe anyWord)
open ExpressionRule TargetRule

/-- An attribute or an element of something, after which the target goes on or ends. -/
def attributeOrElement (guard : Pattern Rule) : List (Alternative Rule) :=
  [.labelled .member [targetPrimary, ".", name, guard],
   .labelled .element [targetPrimary, "[", slices, "]", guard]]

def TargetRule.production : TargetRule → Production Rule
  | starTargets => .of
      [.keep 0 [starTarget, .notAhead ","],
       .labelled .tuple [starTarget, .many (keep 1 [",", starTarget]), .optional ","]]
  | starTargetsInList => .of [.plain [commas starTarget, .optional ","]]
  | starTargetsInTuple => .of
      [.plain [starTarget, .many1 (keep 1 [",", starTarget]), .optional ","],
       .plain [starTarget, ","]]
  | starTarget => .kept
      [.labelled .starred ["*", keep 0 [.notAhead "*", starTarget]],
       .same targetWithStarAtom]
  | targetWithStarAtom => .kept
      (attributeOrElement (.notAhead targetGoesOn) ++ [.same starAtom])
  | starAtom => .of
      [.same name,
       .keep 1 ["(", targetWithStarAtom, ")"],
       .labelled .tuple ["(", .optional starTargetsInTuple, ")"],
       .labelled .list ["[", .optional starTargetsInList, "]"]]
  | singleTarget => .of
      [.same singleSubscriptOrAttribute,
       .same name,
       .keep 1 ["(", singleTarget, ")"]]
  | singleSubscriptOrAttribute => .of (attributeOrElement (.notAhead targetGoesOn))
  | targetPrimary => .growing
      (attributeOrElement (.ahead targetGoesOn) ++
        [.plain [targetPrimary, generator, .ahead targetGoesOn],
         .plain [targetPrimary, "(", .optional arguments, ")", .ahead targetGoesOn],
         .keep 0 [atom, .ahead targetGoesOn]])
  | targetGoesOn => .of [.same (anyWord ["(", "[", "."])]
  | deleteTargets => .of [.plain [commas deleteTarget, .optional ","]]
  | deleteTarget => .kept
      (attributeOrElement (.notAhead targetGoesOn) ++ [.same deleteAtom])
  | deleteAtom => .of
      [.same name,
       .keep 1 ["(", deleteTarget, ")"],
       .labelled .tuple ["(", .optional deleteTargets, ")"],
       .labelled .list ["[", .optional deleteTargets, "]"]]

end ProviderGen.Source
