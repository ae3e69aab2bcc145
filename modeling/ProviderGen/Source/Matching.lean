import ProviderGen.Source.Number
import ProviderGen.Source.Pattern

/-!
Matching a grammar against tokens.

A matcher knows how far it has read, because a text that the grammar refuses is wrong at the last
token that was looked at. Results of rules are kept with the token they start at, which also makes
rules that start with themselves work: their match is grown from the shortest one.
-/

namespace ProviderGen.Source

/-- A mistake found while matching. A `final` one comes from the tokens and stands as it is;
any other may yet give way to a fault in the tokens that were not read. -/
structure Mistake where
  line : Nat
  final : Bool
  reach : Nat
  deriving DecidableEq, Repr

/-- A kept result: the rule, its tree if it matched, and where it ended. -/
structure Memo (ρ : Type) where
  rule : ρ
  tree : Option Tree
  stop : Nat

/-- Where a matcher is, how many tokens it has looked at, whether it looks for mistakes, and what
it keeps for each token. -/
structure Matcher (ρ : Type) where
  position : Nat
  reach : Nat
  diagnosing : Bool
  memos : Array (List (Memo ρ))

inductive Matched (ρ : Type)
  | found (trees : List Tree) (matcher : Matcher ρ)
  | missed (matcher : Matcher ρ)
  /-- Missed past the point where other alternatives are tried. -/
  | missedForGood (matcher : Matcher ρ)
  | wrong (mistake : Mistake)
  | exhausted

/-- A grammar, the tokens to match, and the check of adjacent strings. -/
structure Setting (ρ : Type) where
  production : ρ → Production ρ
  tokens : Array Token
  fault : Option Fault
  /-- Checks strings, given the line of the last token read. -/
  checkStrings : Nat → List Token → Except Mistake Unit

/-- The number of digits from which on an integer literal is refused. -/
def maxIntegerDigits : Nat := 4300

variable {ρ : Type}

namespace Matcher

def seek (matcher : Matcher ρ) (position : Nat) : Matcher ρ :=
  { matcher with position := position }

/-- The kept result of a rule at the current place. -/
def memo? [DecidableEq ρ] (matcher : Matcher ρ) (rule : ρ) : Option (Memo ρ) :=
  (matcher.memos[matcher.position]?.getD []).find? fun memo => memo.rule = rule

/-- Keeps a result for a place. -/
def remember (matcher : Matcher ρ) (position : Nat) (memo : Memo ρ) : Matcher ρ :=
  { matcher with memos := matcher.memos.modify position (memo :: ·) }

end Matcher

namespace Setting

/-- The line of the last token that a matcher has looked at. -/
def lastLine (setting : Setting ρ) (matcher : Matcher ρ) : Nat :=
  (setting.tokens[matcher.reach - 1]?.map (·.line)).getD 1

/-- The line of the token at a place. -/
def lineAt (setting : Setting ρ) (position : Nat) : Nat :=
  (setting.tokens[position]?.map (·.line)).getD 1

/-- Looks at the token at the current place. -/
def look (setting : Setting ρ) (matcher : Matcher ρ) :
    Except Mistake (Option Token × Matcher ρ) :=
  match setting.tokens[matcher.position]? with
  | some token =>
      .ok (some token, { matcher with reach := max matcher.reach (matcher.position + 1) })
  | none =>
      match setting.fault with
      | some fault => .error ⟨fault.line, true, matcher.reach⟩
      | none => .ok (none, matcher)

/-- Whether a token is a decimal integer of too many digits. Zeros alone are never too many. -/
def isTooLong (token : Token) : Bool :=
  token.kind == .number && Number.isDecimalInteger token.text &&
    token.text.toList.head? != some '0' && maxIntegerDigits < Number.digitCount token.text

def matchToken (setting : Setting ρ) (terminal : Terminal) (matcher : Matcher ρ) : Matched ρ :=
  match setting.look matcher with
  | .error mistake => .wrong mistake
  | .ok (some token, matcher) =>
      if terminal.accepts token then
        if isTooLong token then .wrong ⟨token.line, false, matcher.reach⟩
        else .found [.leaf token] (matcher.seek (matcher.position + 1))
      else
        .missed matcher
  | .ok (none, matcher) => .missed matcher

/-- What an alternative makes of the trees it matched, from a start up to the matcher's place. -/
def conclude (setting : Setting ρ) (outcome : Outcome) (start : Nat) (trees : List Tree)
    (matcher : Matcher ρ) : Matched ρ :=
  match outcome with
  | .node label => .found [.node label (setting.lineAt start) trees] matcher
  | .inner index =>
      match trees[index]? with
      | some tree => .found [tree] matcher
      | none => .missedForGood matcher
  | .checked index check =>
      match trees[index]? with
      | some tree =>
          if check tree then .found [tree] matcher
          else .wrong ⟨tree.line, false, matcher.reach⟩
      | none => .missedForGood matcher
  | .strings =>
      let texts := (Tree.partsOfAll trees).filterMap fun tree =>
        match tree with
        | .leaf token => some token
        | .node .. => none
      match setting.checkStrings (setting.lastLine matcher) texts with
      | .ok () => .found [.node .plain (setting.lineAt start) trees] matcher
      | .error mistake => .wrong { mistake with final := false, reach := matcher.reach }
  | .mistake judge =>
      match setting.tokens[matcher.position - 1]? with
      | none => .missedForGood matcher
      | some last =>
          match judge trees last with
          | .decline => .missedForGood matcher
          | .blame line => .wrong ⟨line, false, matcher.reach⟩
          | .blameLast => .wrong ⟨setting.lastLine matcher, false, matcher.reach⟩

variable [DecidableEq ρ]

mutual

/-- Matches a rule. The bound is on the depth of the search. -/
def matchRule (setting : Setting ρ) : Nat → ρ → Matcher ρ → Matched ρ
  | 0, _, _ => .exhausted
  | bound + 1, rule, matcher =>
      let production := setting.production rule
      match production.keeping with
      | .fresh =>
          let diagnosing := matcher.diagnosing
          let quiet := { matcher with diagnosing := diagnosing && !production.silent }
          match setting.matchChoice bound production.alternatives quiet with
          | .found trees matcher => .found trees { matcher with diagnosing := diagnosing }
          | .missed matcher => .missed { matcher with diagnosing := diagnosing }
          | .missedForGood matcher => .missed { matcher with diagnosing := diagnosing }
          | result => result
      | keeping =>
          -- The token counts as looked at even where a kept result is used.
          match setting.look matcher with
          | .error mistake => .wrong mistake
          | .ok (_, matcher) =>
              match matcher.memo? rule with
              | some memo =>
                  match memo.tree with
                  | some tree => .found [tree] (matcher.seek memo.stop)
                  | none => .missed matcher
              | none =>
                  let start := matcher.position
                  if keeping = .leftRecursive then
                    setting.grow bound rule start none start matcher
                  else
                    match setting.matchChoice bound production.alternatives matcher with
                    | .found trees matcher =>
                        let memo := ⟨rule, trees.head?, matcher.position⟩
                        .found trees (matcher.remember start memo)
                    | .missed matcher => .missed (matcher.remember start ⟨rule, none, start⟩)
                    | .missedForGood matcher =>
                        .missed (matcher.remember start ⟨rule, none, start⟩)
                    | result => result

/-- Grows the match of a rule that starts with itself, as long as it gets longer. -/
def grow (setting : Setting ρ) : Nat → ρ → Nat → Option Tree → Nat → Matcher ρ → Matched ρ
  | 0, _, _, _, _, _ => .exhausted
  | bound + 1, rule, start, best, stop, matcher =>
      -- The alternatives start from the match so far, which they find as a kept result.
      let matcher := (matcher.remember start ⟨rule, best, stop⟩).seek start
      let settle := fun (matcher : Matcher ρ) =>
        match best with
        | some tree => Matched.found [tree] (matcher.seek stop)
        | none => .missed (matcher.seek stop)
      match setting.matchChoice bound (setting.production rule).alternatives matcher with
      | .found trees longer =>
          if longer.position ≤ stop then settle longer
          else setting.grow bound rule start trees.head? longer.position longer
      | .missed matcher => settle matcher
      | .missedForGood matcher => settle matcher
      | result => result

/-- Matches the first of some alternatives that can be. -/
def matchChoice (setting : Setting ρ) : Nat → List (Alternative ρ) → Matcher ρ → Matched ρ
  | 0, _, _ => .exhausted
  | _ + 1, [], matcher => .missed matcher
  | bound + 1, .mk diagnostic items committed outcome :: others, matcher =>
      let start := matcher.position
      if diagnostic && !matcher.diagnosing then
        setting.matchChoice bound others matcher
      else
        match setting.matchItems bound items [] matcher with
        | .found trees matcher =>
            match setting.matchItems bound committed trees matcher with
            | .found trees matcher => setting.conclude outcome start trees.reverse matcher
            | .missed matcher => .missedForGood matcher
            | result => result
        | .missed matcher => setting.matchChoice bound others (matcher.seek start)
        | result => result

/-- Matches patterns in a row, after the trees found so far, which are kept in reverse. -/
def matchItems (setting : Setting ρ) : Nat → List (Pattern ρ) → List Tree → Matcher ρ → Matched ρ
  | 0, _, _, _ => .exhausted
  | _ + 1, [], trees, matcher => .found trees matcher
  | bound + 1, item :: items, trees, matcher =>
      match setting.matchPattern bound item matcher with
      | .found more matcher => setting.matchItems bound items (more.reverse ++ trees) matcher
      | .missedForGood matcher => .missed matcher
      | result => result

def matchPattern (setting : Setting ρ) : Nat → Pattern ρ → Matcher ρ → Matched ρ
  | 0, _, _ => .exhausted
  | bound + 1, pattern, matcher =>
      let start := matcher.position
      match pattern with
      | .token terminal => setting.matchToken terminal matcher
      | .forced terminal =>
          match setting.matchToken terminal matcher with
          | .missed matcher => .wrong ⟨setting.lineAt start, false, matcher.reach⟩
          | result => result
      | .rule name => setting.matchRule bound name matcher
      | .choice alternatives => setting.matchChoice bound alternatives matcher
      | .optional pattern =>
          match setting.matchPattern bound pattern matcher with
          | .found trees matcher => .found [.node .sequence (setting.lineAt start) trees] matcher
          | .missed matcher => .found [.node .sequence 0 []] (matcher.seek start)
          | .missedForGood matcher => .found [.node .sequence 0 []] (matcher.seek start)
          | result => result
      | .many pattern => setting.repeatPattern bound none pattern [] matcher
      | .many1 pattern =>
          match setting.repeatPattern bound none pattern [] matcher with
          | .found [.node _ _ []] matcher => .missed (matcher.seek start)
          | result => result
      | .separated separator pattern =>
          match setting.matchPattern bound pattern matcher with
          | .found trees matcher =>
              setting.repeatPattern bound (some separator) pattern trees.reverse matcher
          | result => result
      | .ahead pattern =>
          match setting.matchPattern bound pattern matcher with
          | .found _ matcher => .found [] (matcher.seek start)
          | result => result
      | .notAhead pattern =>
          match setting.matchPattern bound pattern matcher with
          | .found _ matcher => .missed (matcher.seek start)
          | .missed matcher => .found [] (matcher.seek start)
          | .missedForGood matcher => .found [] (matcher.seek start)
          | result => result

/-- Matches a pattern as often as it can be, each time after a separator if there is one. -/
def repeatPattern (setting : Setting ρ) :
    Nat → Option Terminal → Pattern ρ → List Tree → Matcher ρ → Matched ρ
  | 0, _, _, _, _ => .exhausted
  | bound + 1, separator, pattern, trees, matcher =>
      let start := matcher.position
      let finish := fun (matcher : Matcher ρ) =>
        Matched.found [.node .sequence ((trees.getLast?.map (·.line)).getD 0) trees.reverse]
          (matcher.seek start)
      let separated := match separator with
        | none => Matched.found [] matcher
        | some terminal => setting.matchToken terminal matcher
      match separated with
      | .found _ matcher =>
          match setting.matchPattern bound pattern matcher with
          | .found more matcher =>
              setting.repeatPattern bound separator pattern (more.reverse ++ trees) matcher
          | .missed matcher => finish matcher
          | .missedForGood matcher => finish matcher
          | result => result
      | .missed matcher => finish matcher
      | result => result

end

end Setting

end ProviderGen.Source
