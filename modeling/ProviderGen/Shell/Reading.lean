import ProviderGen.Shell.Lexer

namespace ProviderGen.Shell

/-- The words that only close a command or go on with one. -/
def closingWords : List String := ["then", "else", "elif", "fi", "do", "done", "esac", "\x7d"]

/-- The words that have a meaning where a command may begin. -/
def reservedWords : List String :=
  ["if", "while", "until", "for", "case", "in", "!", "\x7b"] ++ closingWords

/-- The text of a token that is a plain word. -/
def plainWord? : Option Token → Option String
  | some ⟨.word [.text false text], _⟩ => some text
  | _ => none

def tokenName : Option Token → String
  | none => "end of file"
  | some ⟨.newline, _⟩ => "newline"
  | some ⟨.operator text, _⟩ => s!"\"{text}\""
  | some ⟨.redirection .., _⟩ => "redirection"
  | token =>
      match plainWord? token with
      | some text => if reservedWords.contains text then s!"\"{text}\"" else "word"
      | none => "word"

/-- The tokens after a word that has to be there. -/
def expectWord (word : String) (tokens : List Token) : Except ScriptError (List Token) :=
  if plainWord? tokens.head? = some word then .ok tokens.tail
  else .error (.unexpected (tokenName tokens.head?) (some word))

/-- The tokens after an operator that has to be there. -/
def expectOperator (text : String) (tokens : List Token) : Except ScriptError (List Token) :=
  match tokens with
  | ⟨.operator other, _⟩ :: rest =>
      if other = text then .ok rest
      else .error (.unexpected (tokenName tokens.head?) (some text))
  | _ => .error (.unexpected (tokenName tokens.head?) (some text))

/-- Tokens from the first one on that is no end of a line. -/
def skipNewlines (tokens : List Token) : List Token :=
  tokens.dropWhile fun token => token.kind = .newline

/-- Whether no command can begin with the first of some tokens. -/
def isAtEnd (tokens : List Token) : Bool :=
  match tokens with
  | [] | ⟨.operator ")", _⟩ :: _ | ⟨.operator ";;", _⟩ :: _ => true
  | token :: _ => (plainWord? (some token)).any closingWords.contains

/-- The redirection that a sign and its word make. -/
def redirectionOf (number : Option Nat) (sign : String) (word : Word) :
    Except ScriptError Redirection := do
  let read := sign = "<" || sign = "<<" || sign = "<&"
  let streamOf := fun (number : Nat) => do
    match number with
    | 0 => return Stream.input
    | 1 => return Stream.output
    | 2 => return Stream.errors
    | _ => throw (.unexpected "redirection" none)
  let stream ← streamOf (number.getD (if read then 0 else 1))
  match sign with
  | "<" => return ⟨stream, .source word⟩
  | "<<" => return ⟨stream, .document word⟩
  | ">>" => return ⟨stream, .appended word⟩
  | ">" | ">|" => return ⟨stream, .target word⟩
  | _ =>
      match (literalText word).1.toNat?, (literalText word).1 with
      | some other, _ => return ⟨stream, .same (← streamOf other)⟩
      | none, "-" => return ⟨stream, .closed⟩
      | none, _ => throw .badSubstitution

def assignment? : Word → Option (String × Word)
  | .text false text :: rest =>
      let name := text.toList.takeWhile continuesName
      match text.toList.drop name.length with
      | '=' :: value =>
          if name.head?.any startsName then
            some (String.ofList name, .text false (String.ofList value) :: rest)
          else none
      | _ => none
  | _ => none

/-- Reads the redirections that come next. -/
def readRedirections : Nat → List Token → Except ScriptError (List Redirection × List Token)
  | bound + 1, ⟨.redirection number sign, _⟩ :: ⟨.word word, _⟩ :: rest => do
      let redirection ← redirectionOf number sign word
      let (redirections, rest) ← readRedirections bound rest
      return (redirection :: redirections, rest)
  | _, rest => .ok ([], rest)

/-- Reads the words, assignments and redirections of a command on its own. -/
def readSimple : Nat → Simple → List Token → Except ScriptError (Simple × List Token)
  | bound + 1, simple, ⟨.redirection number sign, _⟩ :: rest => do
      match rest with
      | ⟨.word word, _⟩ :: rest =>
          let redirection ← redirectionOf number sign word
          let redirections := simple.redirections ++ [redirection]
          readSimple bound { simple with redirections := redirections } rest
      | rest => throw (.unexpected (tokenName rest.head?) none)
  | bound + 1, simple, ⟨.word word, _⟩ :: rest =>
      match assignment? word, simple.words with
      | some assignment, [] =>
          let assignments := simple.assignments ++ [assignment]
          readSimple bound { simple with assignments := assignments } rest
      | _, words => readSimple bound { simple with words := words ++ [word] } rest
  | _, simple, rest => .ok (simple, rest)

/-- Reads the words that come next. -/
def readWords : List Token → List Word × List Token
  | ⟨.word word, _⟩ :: rest => ((readWords rest).1.cons word, (readWords rest).2)
  | rest => ([], rest)

def readPatterns : List Token → List Word × List Token
  | ⟨.word word, _⟩ :: ⟨.operator "|", _⟩ :: rest =>
      ((readPatterns rest).1.cons word, (readPatterns rest).2)
  | ⟨.word word, _⟩ :: rest => ([word], rest)
  | rest => ([], rest)

/-- The tokens after the end of a list of words. -/
def afterWords (tokens : List Token) : Except ScriptError (List Token) :=
  match tokens with
  | ⟨.operator ";", _⟩ :: rest => .ok (skipNewlines rest)
  | ⟨.newline, _⟩ :: rest => .ok (skipNewlines rest)
  | tokens => .error (.unexpected (tokenName tokens.head?) none)

mutual

/-- Reads commands up to a word or an operator that closes them. -/
def readList : Nat → List Token → Except ScriptError (Command × List Token)
  | 0, tokens => .error (.unexpected (tokenName tokens.head?) none)
  | bound + 1, tokens =>
      let tokens := skipNewlines tokens
      if isAtEnd tokens then
        .ok (.nothing, tokens)
      else do
        let (first, rest) ← readAndOr bound tokens
        match rest with
        | ⟨.operator ";", _⟩ :: rest | ⟨.newline, _⟩ :: rest =>
            let (second, rest) ← readList bound rest
            return (if second = .nothing then first else .sequence first second, rest)
        | ⟨.operator "&", _⟩ :: rest =>
            let (second, rest) ← readList bound rest
            return (.sequence (.background first) second, rest)
        | rest => return (first, rest)

/-- Reads the commands of a body, of which there has to be one. -/
def readBody : Nat → List Token → Except ScriptError (Command × List Token)
  | 0, tokens => .error (.unexpected (tokenName tokens.head?) none)
  | bound + 1, tokens => do
      let (body, rest) ← readList bound tokens
      if body = .nothing then
        throw (.unexpected (tokenName rest.head?) none)
      return (body, rest)

/-- Reads commands of which the later ones depend on how the earlier ones end. -/
def readAndOr : Nat → List Token → Except ScriptError (Command × List Token)
  | 0, tokens => .error (.unexpected (tokenName tokens.head?) none)
  | bound + 1, tokens => do
      let (first, rest) ← readPipeline bound tokens
      readAndOrFrom bound first rest

/-- Goes on after the first of such commands. -/
def readAndOrFrom : Nat → Command → List Token → Except ScriptError (Command × List Token)
  | 0, _, tokens => .error (.unexpected (tokenName tokens.head?) none)
  | bound + 1, first, ⟨.operator "&&", _⟩ :: rest => do
      let (second, rest) ← readPipeline bound (skipNewlines rest)
      readAndOrFrom bound (.both first second) rest
  | bound + 1, first, ⟨.operator "||", _⟩ :: rest => do
      let (second, rest) ← readPipeline bound (skipNewlines rest)
      readAndOrFrom bound (.either first second) rest
  | _ + 1, first, rest => .ok (first, rest)

/-- Reads commands of which each gets the output of the one before. -/
def readPipeline : Nat → List Token → Except ScriptError (Command × List Token)
  | 0, tokens => .error (.unexpected (tokenName tokens.head?) none)
  | bound + 1, tokens => do
      if plainWord? tokens.head? = some "!" then
        let (command, rest) ← readPipeline bound tokens.tail
        return (.negation command, rest)
      let (first, rest) ← readCommand bound tokens
      match rest with
      | ⟨.operator "|", _⟩ :: rest =>
          let (second, rest) ← readPipeline bound (skipNewlines rest)
          return (.pipe first second, rest)
      | rest => return (first, rest)

def readCommand : Nat → List Token → Except ScriptError (Command × List Token)
  | 0, tokens => .error (.unexpected (tokenName tokens.head?) none)
  | bound + 1, tokens => do
      let withRedirections := fun (command : Command) (rest : List Token) => do
        let (redirections, rest) ← readRedirections (rest.length + 1) rest
        return (if redirections = [] then command else .group command redirections, rest)
      match tokens, plainWord? tokens.head? with
      | ⟨.operator "(", _⟩ :: rest, _ =>
          let (body, rest) ← readBody bound rest
          withRedirections (.subshell body) (← expectOperator ")" rest)
      | _ :: rest, some "\x7b" =>
          let (body, rest) ← readBody bound rest
          withRedirections body (← expectWord "\x7d" rest)
      | _ :: rest, some "if" =>
          let (command, rest) ← readChoice bound rest
          withRedirections command rest
      | _ :: rest, some "while" =>
          let (command, rest) ← readLoop bound true rest
          withRedirections command rest
      | _ :: rest, some "until" =>
          let (command, rest) ← readLoop bound false rest
          withRedirections command rest
      | _ :: rest, some "case" =>
          let (command, rest) ← readCases bound rest
          withRedirections command rest
      | _ :: ⟨.operator "(", _⟩ :: ⟨.operator ")", _⟩ :: rest, some name =>
          let (body, rest) ← readCommand bound (skipNewlines rest)
          return (.function name body, rest)
      | _ :: rest, some "for" =>
          let (command, rest) ← readForEach bound rest
          withRedirections command rest
      | _, word =>
          if word.any reservedWords.contains then
            throw (.unexpected (tokenName tokens.head?) none)
          let line := tokens.head?.elim 1 (·.line)
          let (simple, rest) ← readSimple (tokens.length + 1) ⟨line, [], [], []⟩ tokens
          if simple = ⟨line, [], [], []⟩ then
            throw (.unexpected (tokenName tokens.head?) none)
          return (.simple simple, rest)

/-- Reads a choice after the word that begins it. -/
def readChoice : Nat → List Token → Except ScriptError (Command × List Token)
  | 0, tokens => .error (.unexpected (tokenName tokens.head?) none)
  | bound + 1, tokens => do
      let (condition, rest) ← readBody bound tokens
      let (whenTrue, rest) ← readBody bound (← expectWord "then" rest)
      match plainWord? rest.head? with
      | some "elif" =>
          let (whenFalse, rest) ← readChoice bound rest.tail
          return (.choice condition whenTrue whenFalse, rest)
      | some "else" =>
          let (whenFalse, rest) ← readBody bound rest.tail
          return (.choice condition whenTrue whenFalse, ← expectWord "fi" rest)
      | _ => return (.choice condition whenTrue .nothing, ← expectWord "fi" rest)

/-- Reads a loop after the word that begins it. -/
def readLoop : Nat → Bool → List Token → Except ScriptError (Command × List Token)
  | 0, _, tokens => .error (.unexpected (tokenName tokens.head?) none)
  | bound + 1, expected, tokens => do
      let (condition, rest) ← readBody bound tokens
      let (body, rest) ← readBody bound (← expectWord "do" rest)
      return (.loop expected condition body, ← expectWord "done" rest)

/-- Reads the branches of a choice by patterns. -/
def readBranches : Nat → Word → List Token → Except ScriptError (Command × List Token)
  | 0, _, tokens => .error (.unexpected (tokenName tokens.head?) none)
  | bound + 1, word, tokens => do
      let tokens := skipNewlines tokens
      if plainWord? tokens.head? = some "esac" then
        return (.nothing, tokens.tail)
      let opened := match tokens with
        | ⟨.operator "(", _⟩ :: rest => rest
        | tokens => tokens
      let (patterns, rest) := readPatterns opened
      if patterns = [] then
        throw (.unexpected (tokenName rest.head?) none)
      let (body, rest) ← readList bound (← expectOperator ")" rest)
      let (otherwise, rest) ← match rest with
        | ⟨.operator ";;", _⟩ :: rest => readBranches bound word rest
        | rest => do
            let rest ← expectWord "esac" (skipNewlines rest)
            pure (.nothing, rest)
      return (.branch word patterns body otherwise, rest)

/-- Reads a choice by patterns after the word that begins it. -/
def readCases : Nat → List Token → Except ScriptError (Command × List Token)
  | bound + 1, ⟨.word word, _⟩ :: rest => do
      let rest ← expectWord "in" (skipNewlines rest)
      readBranches bound word rest
  | _, tokens => .error (.unexpected (tokenName tokens.head?) none)

/-- Reads a loop over words after the word that begins it. -/
def readForEach : Nat → List Token → Except ScriptError (Command × List Token)
  | 0, tokens => .error (.unexpected (tokenName tokens.head?) none)
  | bound + 1, tokens => do
      match plainWord? tokens.head? with
      | none => throw (.unexpected (tokenName tokens.head?) none)
      | some name =>
          let rest := skipNewlines tokens.tail
          let (words, rest) ←
            if plainWord? rest.head? = some "in" then
              let (words, rest) := readWords rest.tail
              pure (some words, ← afterWords rest)
            else
              pure (none, (afterWords rest).toOption.getD rest)
          let (body, rest) ← readBody bound (← expectWord "do" rest)
          return (.forEach name words body, ← expectWord "done" rest)

end

def readScript (script : String) : Except ScriptError Command := do
  let tokens ← tokens script
  let (command, rest) ← readList (8 * (tokens.length + 1)) tokens
  match rest with
  | [] => return command
  | token :: _ => throw (.unexpected (tokenName (some token)) none)

end ProviderGen.Shell
