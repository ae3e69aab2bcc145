namespace ProviderGen

/-- What is left open about the interpreter that a program runs on: which texts are names of
characters, what it says of a source text or a document that it refuses, and which of those it
breaks down on, and in what words. It may break down because a text nests too deep for it. And what
it knows from the system: where other users are at home, when a record is made that follows so many
others, and how long a step takes. -/
class Interpreter where
  namesCharacter : List Char → Bool
  sourceComplaint : String → String
  sourceBreakdown? : String → Option String
  documentComplaint : String → String
  documentBreakdown? : String → Option String
  homeOf? : String → Option String
  moment : Nat → String
  elapsed : String → String

end ProviderGen
