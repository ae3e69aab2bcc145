import ProviderGen.Source.Matching
import Mathlib.Algebra.GroupWithZero.Nat

/-!
Recognizing without trees: how far a rule reaches, from what is known of the tokens.

A recognizer keeps no results. A rule that starts with itself may use the match it grows from only
where its own alternatives ask for it; anything else that gets back to it at the same place is left
open.
-/

namespace ProviderGen.Source

/-- What matching comes to, but for trees: how far it reaches, or how it fails. -/
inductive Extent
  | upTo (stop : Nat)
  | refused
  /-- Refused past the point where other alternatives are tried. -/
  | refusedForGood
  | wrong
  deriving DecidableEq, Repr

namespace Extent

/-- The extent of a match that may be missing. -/
def ofStop : Option Nat → Extent
  | some stop => upTo stop
  | none => refused

/-- A rule that is refused may give way to another one. -/
def settled : Extent → Extent
  | refusedForGood => refused
  | extent => extent

end Extent

/-- What is known of a rule at a place. It is known even while rules of the given list, or any
rules if there is none, grow there. -/
structure Known (ρ : Type) where
  extent : Extent
  amid : Option (List ρ)

/-- A grammar, and what is known of the tokens. A `sealed` rule is known or left open. -/
structure View (ρ : Type) where
  production : ρ → Production ρ
  isSealed : ρ → Bool
  /-- Whether the token at a place is what a terminal asks for. -/
  answer : Nat → Terminal → Option Bool
  known : ρ → Nat → Option (Known ρ)

/-- The match that a rule grows from: the rule, its place, and how far it reaches, if it matched. -/
structure Seed (ρ : Type) where
  rule : ρ
  place : Nat
  stop : Option Nat

/-- What is to be recognized. -/
inductive Task (ρ : Type)
  | rule (name : ρ)
  /-- A rule that grows from a match that reaches up to a place, if there is one. -/
  | grow (name : ρ) (best : Option Nat)
  | choice (alternatives : List (Alternative ρ))
  | items (items : List (Pattern ρ))
  | pattern (pattern : Pattern ρ)
  | repeated (separator : Option Terminal) (pattern : Pattern ρ)
  | repeatedOnce (pattern : Pattern ρ)

variable {ρ : Type}

namespace Pattern

/-- How many trees a pattern leaves where it matches. -/
def width : Pattern ρ → Nat
  | ahead _ => 0
  | notAhead _ => 0
  | _ => 1

/-- How many trees patterns in a row leave. -/
def widths (items : List (Pattern ρ)) : Nat :=
  (items.map width).sum

end Pattern

variable [DecidableEq ρ]

/-- What is known holds while some rules grow, each at a place. -/
def Known.holdsAmid (known : Known ρ) (growing : List (ρ × Nat)) (place : Nat) : Bool :=
  match known.amid with
  | none => true
  | some rules => growing.all fun (rule, start) =>
      start < place || (start = place && rules.contains rule)

/-- The match of a seed, where it is asked for. -/
def Seed.at? (seed : Option (Seed ρ)) (rule : ρ) (place : Nat) : Option Extent :=
  seed.bind fun seed =>
    if seed.rule = rule ∧ seed.place = place then some (.ofStop seed.stop) else none

namespace View

/-- What is left to recognize: the rules that grow, the seed, the task and the place. -/
abbrev Recognizer (ρ : Type) :=
  List (ρ × Nat) → Option (Seed ρ) → Task ρ → Nat → Option Extent

section

variable (view : View ρ) (recur : Recognizer ρ) (growing : List (ρ × Nat))

def rule (seed : Option (Seed ρ)) (name : ρ) (place : Nat) : Option Extent :=
  match Seed.at? seed name place with
  | some extent => some extent
  | none =>
      if growing.contains (name, place) then
        none
      else
        match view.known name place with
        | some known => if known.holdsAmid growing place then some known.extent else none
        | none =>
            let production := view.production name
            if view.isSealed name then
              none
            else if production.keeping = .leftRecursive then
              recur ((name, place) :: growing) none (.grow name none) place
            else
              (recur growing none (.choice production.alternatives) place).map Extent.settled

def grow (seed : Option (Seed ρ)) (name : ρ) (best : Option Nat) (place : Nat) : Option Extent :=
  let next : Seed ρ := ⟨name, place, best⟩
  match recur growing (some next) (.choice (view.production name).alternatives) place with
  | some (.upTo stop) =>
      if stop ≤ best.getD place then some (.ofStop best)
      else recur growing seed (.grow name (some stop)) place
  | some .wrong => some .wrong
  | some _ => some (.ofStop best)
  | none => none

variable (seed : Option (Seed ρ))

/-- What an alternative that matched comes to. -/
def conclude (outcome : Outcome) (width stop : Nat) : Option Extent :=
  match outcome with
  | .node _ => some (.upTo stop)
  | .inner index => some (if index < width then .upTo stop else .refusedForGood)
  | _ => none

/-- Recognizes the first of some alternatives that can be. -/
def choice : List (Alternative ρ) → Nat → Option Extent
  | [], _ => some .refused
  | .mk diagnostic items committed outcome :: others, place =>
      if diagnostic then
        recur growing seed (.choice others) place
      else
        match recur growing seed (.items items) place with
        | some (.upTo middle) =>
            match recur growing seed (.items committed) middle with
            | some (.upTo stop) =>
                conclude outcome (Pattern.widths items + Pattern.widths committed) stop
            | some .refused => some .refusedForGood
            | result => result
        | some .refused => recur growing seed (.choice others) place
        | result => result

/-- Recognizes patterns in a row. -/
def items : List (Pattern ρ) → Nat → Option Extent
  | [], place => some (.upTo place)
  | item :: rest, place =>
      match recur growing seed (.pattern item) place with
      | some (.upTo stop) => recur growing seed (.items rest) stop
      | some .refusedForGood => some .refused
      | result => result

def token (terminal : Terminal) (place : Nat) : Option Extent :=
  (view.answer place terminal).map fun accepts => if accepts then .upTo (place + 1) else .refused

/-- Recognizes what stands before a repetition, if anything does. -/
def separated : Option Terminal → Nat → Option Extent
  | none, place => some (.upTo place)
  | some terminal, place => view.token terminal place

def pattern (pattern : Pattern ρ) (place : Nat) : Option Extent :=
  match pattern with
  | .token terminal => view.token terminal place
  | .forced terminal =>
      match view.token terminal place with
      | some .refused => some .wrong
      | result => result
  | .rule name => recur growing seed (.rule name) place
  | .choice alternatives => recur growing seed (.choice alternatives) place
  | .optional pattern =>
      match recur growing seed (.pattern pattern) place with
      | some .refused => some (.upTo place)
      | some .refusedForGood => some (.upTo place)
      | result => result
  | .many pattern => recur growing seed (.repeated none pattern) place
  | .many1 pattern => recur growing seed (.repeatedOnce pattern) place
  | .separated separator pattern =>
      match recur growing seed (.pattern pattern) place with
      | some (.upTo stop) => recur growing seed (.repeated (some separator) pattern) stop
      | result => result
  | .ahead pattern =>
      match recur growing seed (.pattern pattern) place with
      | some (.upTo _) => some (.upTo place)
      | result => result
  | .notAhead pattern =>
      match recur growing seed (.pattern pattern) place with
      | some (.upTo _) => some .refused
      | some .wrong => some .wrong
      | some _ => some (.upTo place)
      | none => none

/-- Recognizes a pattern as often as it can be. -/
def repeated (separator : Option Terminal) (pattern : Pattern ρ) (place : Nat) : Option Extent :=
  match view.separated separator place with
  | some (.upTo next) =>
      match recur growing seed (.pattern pattern) next with
      | some (.upTo stop) => recur growing seed (.repeated separator pattern) stop
      | some .wrong => some .wrong
      | some _ => some (.upTo place)
      | none => none
  | some .refused => some (.upTo place)
  | result => result

/-- Recognizes a pattern that leaves a tree at least once. -/
def repeatedOnce (pattern : Pattern ρ) (place : Nat) : Option Extent :=
  if pattern.width = 0 then
    none
  else
    match recur growing seed (.pattern pattern) place with
    | some (.upTo stop) => recur growing seed (.repeated none pattern) stop
    | some .wrong => some .wrong
    | some _ => some .refused
    | none => none

end

def step (view : View ρ) (recur : Recognizer ρ) : Recognizer ρ
  | growing, seed, .rule name, place => view.rule recur growing seed name place
  | growing, seed, .grow name best, place => view.grow recur growing seed name best place
  | growing, seed, .choice alternatives, place => choice recur growing seed alternatives place
  | growing, seed, .items patterns, place => items recur growing seed patterns place
  | growing, seed, .pattern pattern, place => view.pattern recur growing seed pattern place
  | growing, seed, .repeated separator pattern, place =>
      view.repeated recur growing seed separator pattern place
  | growing, seed, .repeatedOnce pattern, place => repeatedOnce recur growing seed pattern place

/-- Recognizes a task with a bound on the depth; none if that is not enough, or if it is not known
what it comes to. -/
def recognize (view : View ρ) : Nat → Recognizer ρ
  | 0 => fun _ _ _ _ => none
  | bound + 1 => view.step (view.recognize bound)

end View

end ProviderGen.Source
