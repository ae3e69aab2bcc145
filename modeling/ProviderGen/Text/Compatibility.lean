import ProviderGen.Text.CompatibilityTable

/-!
The compatible form of an identifier: two spellings that look alike are the same name.

A text is taken apart into letters and marks, the marks on a letter are put in order, and what can
be combined is combined again (the form that Unicode calls NFKC). ASCII is in this form already.
-/

namespace ProviderGen.Text

/-- Characters in groups of two. -/
def pairsOf : List Char → List (Char × Char)
  | a :: b :: rest => (a, b) :: pairsOf rest
  | _ => []

/-- Characters in groups of three. -/
def triplesOf : List Char → List (Char × Char × Char)
  | a :: b :: c :: rest => (a, b, c) :: triplesOf rest
  | _ => []

/-- Groups that end in a space, each as its first character and the others. -/
def groupsOf : List Char → List (Char × List Char)
  | [] => []
  | c :: rest =>
      if c == ' ' then
        (' ', []) :: groupsOf rest
      else
        match groupsOf rest with
        | (' ', []) :: groups => (c, []) :: groups
        | (first, others) :: groups => (c, first :: others) :: groups
        | [] => [(c, [])]

/-- Two characters and the one that they combine into, for all there are. -/
def combinationTable : List (Char × Char × Char) :=
  combinations.flatMap fun line => triplesOf line.toList

/-- A character and the one that it stands for, for all there are. -/
def equivalentTable : List (Char × Char) :=
  equivalents.flatMap fun line => pairsOf line.toList

/-- A character and the several that it stands for, for all there are. -/
def expansionTable : List (Char × List Char) :=
  expansions.flatMap fun line => groupsOf line.toList

/-- What one character stands for by the tables, if it does not stand for itself. -/
def standsFor? (c : Char) : Option (List Char) :=
  match combinationTable.find? fun (_, _, whole) => whole == c with
  | some (first, second, _) => some [first, second]
  | none =>
      match equivalentTable.find? fun (source, _) => source == c with
      | some (_, target) => some [target]
      | none => (expansionTable.find? fun (source, _) => source == c).map (·.2)

/-- The first syllable of the Korean script, and how many there are. -/
def firstSyllable : Nat := 0xac00

/-- How many vowels and how many final consonants, counting none, the Korean script has. -/
def vowelCount : Nat := 21
/-- How many final consonants the Korean script has, counting none. -/
def finalCount : Nat := 28

/-- How many initial consonants the Korean script has. -/
def initialCount : Nat := 19

/-- The code points of the first initial, the first vowel, and the one before the first final. -/
def firstInitial : Nat := 0x1100
def firstVowel : Nat := 0x1161
/-- The code point before that of the first final consonant. -/
def beforeFinals : Nat := 0x11a7

def syllableLetters? (c : Char) : Option (List Char) :=
  if firstSyllable ≤ c.toNat && c.toNat < firstSyllable + initialCount * vowelCount * finalCount then
    let index := c.toNat - firstSyllable
    let final := index % finalCount
    let letters :=
      [Char.ofNat (firstInitial + index / (vowelCount * finalCount)),
       Char.ofNat (firstVowel + index / finalCount % vowelCount)]
    some (if final = 0 then letters else letters ++ [Char.ofNat (beforeFinals + final)])
  else
    none

/-- A character taken apart. Nothing has to be taken apart more than a few times. -/
def takenApart : Nat → Char → List Char
  | 0, c => [c]
  | bound + 1, c =>
      if c.toNat < 0x80 then
        [c]
      else
        match syllableLetters? c with
        | some letters => letters
        | none =>
            match standsFor? c with
            | some parts => parts.flatMap (takenApart bound)
            | none => [c]

/-- The class of a character among combining marks; zero for what is no such mark. -/
def markClass (c : Char) : Nat :=
  if c.toNat < 0x80 then
    0
  else
    ((markClasses.find? fun (low, high, _) => low ≤ c.toNat && c.toNat ≤ high).map (·.2.2)).getD 0

/-- Puts a mark in front of marks that are in order. -/
def insertMark (mark : Nat × Char) : List (Nat × Char) → List (Nat × Char)
  | [] => [mark]
  | other :: rest =>
      if other.1 ≠ 0 && mark.1 > other.1 then other :: insertMark mark rest
      else mark :: other :: rest

/-- Puts runs of marks in order, marks of one class in the order they came in. -/
def orderMarks (text : List Char) : List (Nat × Char) :=
  text.foldr
    (fun c ordered =>
      let mark := (markClass c, c)
      if mark.1 = 0 then mark :: ordered else insertMark mark ordered)
    []

/-- The character that two others combine into. -/
def combined? (first second : Char) : Option Char :=
  let a := first.toNat
  let b := second.toNat
  if firstInitial ≤ a && a < firstInitial + initialCount &&
      firstVowel ≤ b && b < firstVowel + vowelCount then
    some (Char.ofNat
      (firstSyllable + ((a - firstInitial) * vowelCount + (b - firstVowel)) * finalCount))
  else if firstSyllable ≤ a && a < firstSyllable + initialCount * vowelCount * finalCount &&
      (a - firstSyllable) % finalCount = 0 && beforeFinals < b && b < beforeFinals + finalCount then
    some (Char.ofNat (a + (b - beforeFinals)))
  else
    (combinationTable.find? fun (x, y, _) => x == first && y == second).map (·.2.2)

/-- Combines a letter with the marks after it. `kept` holds, in reverse, the marks that stay, and
`last` is the class of the last of them. -/
def combineFrom (starter : Char) (kept : List Char) (last : Nat) :
    List (Nat × Char) → List Char
  | [] => starter :: kept.reverse
  | (cls, c) :: rest =>
      if kept.isEmpty || last < cls then
        match combined? starter c with
        | some whole => combineFrom whole kept last rest
        | none =>
            if cls = 0 then starter :: (kept.reverse ++ combineFrom c [] 0 rest)
            else combineFrom starter (c :: kept) cls rest
      else if cls = 0 then
        starter :: (kept.reverse ++ combineFrom c [] 0 rest)
      else
        combineFrom starter (c :: kept) cls rest

/-- Combines what can be combined. Marks before the first letter stay. -/
def combineAll : List (Nat × Char) → List Char
  | [] => []
  | (cls, c) :: rest => if cls = 0 then combineFrom c [] 0 rest else c :: combineAll rest

/-- The compatible form of an identifier. -/
def compatible (text : String) : String :=
  if text.toList.all (·.toNat < 0x80) then text
  else String.ofList (combineAll (orderMarks (text.toList.flatMap (takenApart 4))))

end ProviderGen.Text
