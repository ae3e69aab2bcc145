import ProviderGen.Source.Grammar
import ProviderGen.Source.Lexer
import ProviderGen.Source.Literal

/-!
Parsing source texts. A text that the grammar refuses is matched once more, now looking for known
mistakes, to find the line to report: that of the mistake, or of the last token that was read.
-/

namespace ProviderGen.Source

/-- The first place of a token stream. -/
def startOf (stream : TokenStream) (diagnosing : Bool) (reach : Nat) : Matcher Rule :=
  ⟨0, reach, diagnosing, Array.replicate (stream.tokens.length + 1) []⟩

/-- The line to report for a mistake. A fault in the tokens that follow it comes first if it is
certain, or if it lies in a bracket that was opened on an earlier line and never closed. -/
def reportedLine (stream : TokenStream) (mistake : Mistake) (readLine : Nat) : Nat :=
  if mistake.final then
    mistake.line
  else
    match stream.fault with
    | none => mistake.line
    | some fault =>
        if fault.certain then
          fault.line
        else
          match fault.openLine with
          | some openLine => if openLine < readLine then openLine else mistake.line
          | none => mistake.line

/-- A bound on the depth of the search for the match of a token stream. -/
def searchBound (stream : TokenStream) : Nat :=
  256 * (stream.tokens.length + 64)

/-- Matches a rule against a token stream, or finds the line to report. -/
def matchStream (stream : TokenStream) (rule : Rule)
    (checkStrings : Nat → List Token → Except Mistake Unit) : Except Nat Tree :=
  let setting : Setting Rule :=
    ⟨Rule.production, stream.tokens.toArray, stream.fault, checkStrings⟩
  let bound := searchBound stream
  let settle := fun (mistake : Mistake) =>
    reportedLine stream mistake ((setting.tokens[mistake.reach - 1]?.map (·.line)).getD 1)
  match setting.matchRule bound rule (startOf stream false 0) with
  | .found (tree :: _) _ => .ok tree
  | .found [] _ => .error 1
  | .exhausted => .error 1
  | .wrong mistake => .error (settle mistake)
  | .missed first | .missedForGood first =>
      let refused := fun (again : Matcher Rule) =>
        match setting.tokens[first.reach - 1]? with
        | none => 1
        | some last =>
            if last.kind = .indent || last.kind = .dedent then setting.lastLine again
            else settle ⟨last.line, false, again.reach⟩
      match setting.matchRule bound rule (startOf stream true first.reach) with
      | .wrong mistake => .error (settle mistake)
      | .found _ again | .missed again | .missedForGood again => .error (refused again)
      | .exhausted => .error 1

variable [Interpreter]

/-- Parses the expression of a field of a formatted string, in which strings nest at most to the
given depth. -/
def parseField : Nat → Nat → List Char → Except Nat Unit
  | 0, line, _ => .error line
  | depth + 1, line, text =>
      let check := fun lastLine tokens =>
        (Literal.checkAll (parseField depth) lastLine none tokens).mapError fun line =>
          ⟨line, false, 0⟩
      (matchStream (tokensFrom line text) (.expression .starExpressions) check).map fun _ => ()

/-- Line ends of all kinds as line feeds, with one at the end of the text. -/
def withLineFeeds : List Char → List Char
  | [] => ['\n']
  | ['\n'] => ['\n']
  | ['\r'] => ['\n']
  | '\r' :: '\n' :: [] => ['\n']
  | '\r' :: '\n' :: rest => '\n' :: withLineFeeds rest
  | '\r' :: rest => '\n' :: withLineFeeds rest
  | c :: rest => c :: withLineFeeds rest

/-- Parses a source text, or finds the line on which it is wrong. -/
def parse (text : List Char) : Except Nat Tree :=
  let text := withLineFeeds text
  let check := fun lastLine tokens =>
    (Literal.checkAll (parseField text.length) lastLine none tokens).mapError fun line =>
      ⟨line, false, 0⟩
  matchStream (tokensFrom 1 text) (.statement .file) check

end ProviderGen.Source
