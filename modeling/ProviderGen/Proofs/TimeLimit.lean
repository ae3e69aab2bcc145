import ProviderGen.Interpreter.Common
import ProviderGen.Proofs.Settings

namespace ProviderGen

namespace Binary64

/-- A number that compares greater than zero. -/
inductive Positive : Binary64 → Prop
  | infinite : Positive (.infinite false)
  | finite {mantissa : Nat} (exponent : Int) (h : 0 < mantissa) :
      Positive (.finite false mantissa exponent)

variable {number : Binary64}

theorem positive_iff : number.Positive ↔ number.isAtMostZero = false ∧ number ≠ nan := by
  constructor
  · intro h
    cases h with
    | infinite => exact ⟨rfl, nofun⟩
    | finite exponent hmantissa =>
        have hne := Nat.pos_iff_ne_zero.mp hmantissa
        exact ⟨by simp [isAtMostZero, hne], nofun⟩
  · rintro ⟨hzero, hnumber⟩
    cases number with
    | nan => exact absurd rfl hnumber
    | infinite negative =>
        obtain rfl : negative = false := hzero
        exact .infinite
    | finite negative mantissa exponent =>
        obtain ⟨rfl, hmantissa⟩ : negative = false ∧ mantissa ≠ 0 := by
          simpa [isAtMostZero] using hzero
        exact .finite exponent (Nat.pos_of_ne_zero hmantissa)

theorem ofRatio_ne_nan (negative : Bool) (num den : Nat) : ofRatio negative num den ≠ nan := by
  unfold ofRatio
  split
  · simp [zero]
  · dsimp only
    split_ifs <;> simp

theorem ofInt?_ne_nan (n : Int) : ofInt? n ≠ some nan := by
  intro h
  unfold ofInt? at h
  split at h
  · cases h
  · exact ofRatio_ne_nan _ _ _ (Option.some.inj h)

end Binary64

namespace Number

open Binary64

variable {text : String}

/-- A text spells out that it is no number, in small or capital letters, with or without a sign. -/
def SaysNan (text : String) : Prop :=
  ∃ joined, joinDigits? isDigit false (plainText text.toList) = some joined ∧
    small (signed joined).2 = "nan".toList

theorem ofDigits_ne_nan (negative : Bool) (digits : List Char) (exponent : Int) :
    ofDigits negative digits exponent ≠ nan := by
  unfold ofDigits
  dsimp only
  split_ifs
  · simp [zero]
  · simp
  · exact ofRatio_ne_nan _ _ _

theorem unsignedBinary?_ne_nan (negative : Bool) (digits : List Char) :
    unsignedBinary? negative digits ≠ some nan := by
  have hdigits : ∀ (start : List Char) (places : Nat) (rest : List Char),
      (exponent? rest).map (fun exponent => ofDigits negative start (exponent - places)) ≠
        some nan := by
    intro start places rest h
    obtain ⟨exponent, -, hnumber⟩ := Option.map_eq_some_iff.mp h
    exact ofDigits_ne_nan _ _ _ hnumber
  unfold unsignedBinary?
  dsimp only
  split
  · split_ifs
    · simp
    · apply hdigits
  · split_ifs
    · simp
    · apply hdigits

theorem readBinary?_eq_nan_iff : readBinary? text = some nan ↔ SaysNan text := by
  unfold SaysNan readBinary?
  generalize joinDigits? isDigit false (plainText text.toList) = joined
  cases joined with
  | none => exact iff_of_false (fun h => Option.some_ne_none _ h.symm) (by simp)
  | some joined =>
      simp only [bind, Option.bind, Option.some.injEq, exists_eq_left']
      split_ifs with hinfinite hnan
      · have hother : small (signed joined).2 ≠ "nan".toList := by
          intro heq
          rw [heq] at hinfinite
          revert hinfinite
          decide
        exact iff_of_false (by simp) hother
      · exact iff_of_true rfl hnan
      · exact iff_of_false (unsignedBinary?_ne_nan _ _) hnan

end Number

namespace Setting

variable {value : Value}

/-- A value is given where a number is wanted, and says that it is none. -/
inductive GivesNan : Value → Prop
  | real : GivesNan (.real .nan)
  | text {text : String} (h : Number.SaysNan text) : GivesNan (.text text)

theorem real?_eq_nan_iff : real? value = .ok (some .nan) ↔ GivesNan value := by
  constructor
  · intro h
    cases value with
    | integer n =>
        have hnumber := Binary64.ofInt?_ne_nan n
        cases hn : Binary64.ofInt? n with
        | none => simp [real?, hn] at h
        | some number => simp_all [real?]
    | real number =>
        obtain rfl : number = .nan := by simpa [real?] using h
        exact .real
    | text text =>
        refine .text (Number.readBinary?_eq_nan_iff.mp ?_)
        simpa [real?] using h
    | _ => simp [real?] at h
  · rintro (_ | h)
    · rfl
    · rw [real?, Number.readBinary?_eq_nan_iff.mpr h]

end Setting

namespace Project

variable {disk : Disk} {path : Path} {project : Project} {entries : List (String × Value)}
  {limit : Binary64}

/-- Settings give for the time of the build what is no number. -/
def LimitIsNan (settings : List (String × Value)) : Prop :=
  ∃ value, Value.lookup "timeout" (buildSettings settings) = some value ∧ Setting.GivesNan value

theorem positive_standardTimeout : standardTimeout.Positive := by
  have h : standardTimeout.isAtMostZero = false ∧ standardTimeout ≠ .nan := by decide +kernel
  exact Binary64.positive_iff.mpr h

theorem timeoutOf_of_given {value : Value} (hvalue : Value.lookup "timeout" entries = some value)
    (h : timeoutOf entries = .ok limit) :
    Setting.real? value = .ok (some limit) ∧ limit.isAtMostZero = false := by
  simp only [timeoutOf, hvalue] at h
  cases hreal : Setting.real? value with
  | error large => simp [hreal] at h
  | ok number =>
      cases number with
      | none => simp [hreal] at h
      | some number =>
          simp only [hreal] at h
          split at h
          · cases h
          next hzero =>
            obtain rfl := Except.ok.inj h
            exact ⟨rfl, by simpa using hzero⟩

theorem timeoutOf_of_ofSettings {root : Path} {settings : List (String × Value)}
    (h : ofSettings root settings = .ok project) :
    timeoutOf (buildSettings settings) = .ok project.build.timeout := by
  simp only [ofSettings_eq, bind_eq_ok_iff, mapError_eq_ok_iff] at h
  obtain ⟨_, -, _, -, _, -, _, -, _, -, timeout, htimeout, h⟩ := h
  obtain rfl := Except.ok.inj h
  exact htimeout

/-- The build of a loaded project is given a positive time, exactly if its settings do not give what
is no number for it. That is taken as it is. -/
theorem timeout_of_load [Interpreter] (h : load disk path = .ok project) :
    ∃ settings, settingsIn disk project.root = .ok settings ∧
      (¬ LimitIsNan settings → project.build.timeout.Positive) ∧
      (LimitIsNan settings → project.build.timeout = .nan) := by
  obtain ⟨expanded, root, settings, -, hread, hsettings⟩ := ofSettings_of_load h
  obtain ⟨rfl, -⟩ := ofSettings_directories hsettings
  have htimeout := timeoutOf_of_ofSettings hsettings
  refine ⟨settings, hread, ?_, ?_⟩
  · intro hnumber
    cases hvalue : Value.lookup "timeout" (buildSettings settings) with
    | none =>
        have hstandard : project.build.timeout = standardTimeout := by
          simp only [timeoutOf, hvalue] at htimeout
          exact (Except.ok.inj htimeout).symm
        rw [hstandard]
        exact positive_standardTimeout
    | some value =>
        obtain ⟨hreal, hzero⟩ := timeoutOf_of_given hvalue htimeout
        refine Binary64.positive_iff.mpr ⟨hzero, ?_⟩
        intro hnan
        rw [hnan] at hreal
        exact hnumber ⟨value, hvalue, Setting.real?_eq_nan_iff.mp hreal⟩
  · rintro ⟨value, hvalue, hnan⟩
    obtain ⟨hreal, -⟩ := timeoutOf_of_given hvalue htimeout
    have hgiven := Setting.real?_eq_nan_iff.mpr hnan
    simpa using hreal.symm.trans hgiven

open Interpreter.Common

/-- A disk with a project that gives its build some time. -/
def timedDisk (limit : String) : Disk where
  root := .directory
    [("app", .directory
      [(".modelgen.yml", .file (Text.encode s!"build:\n  timeout: {limit}\n"))])]
  current := []
  home := "/"

def timedProject (limit : Binary64) : Project where
  root := ⟨.root, ["app"]⟩
  name := "app"
  sourceDirectory := ⟨.root, ["app"]⟩
  outputDirectory := none
  discovery := .standard
  build := ⟨[], limit⟩

theorem load_timedDisk : load (timedDisk "' +1_0E-1 '") ⟨.root, ["app"]⟩ =
    .ok (timedProject (.ofDecimal false 1 0)) := by
  decide +kernel

theorem load_timedDisk_nan : load (timedDisk ".nan") ⟨.root, ["app"]⟩ =
    .ok (timedProject .nan) := by
  decide +kernel

theorem timeout_of_load_timedDisk :
    load (timedDisk "' +1_0E-1 '") ⟨.root, ["app"]⟩ =
        .ok (timedProject (.ofDecimal false 1 0)) ∧
      ∃ settings, settingsIn (timedDisk "' +1_0E-1 '") ⟨.root, ["app"]⟩ = .ok settings ∧
        (¬ LimitIsNan settings → (Binary64.ofDecimal false 1 0).Positive) ∧
        (LimitIsNan settings → Binary64.ofDecimal false 1 0 = .nan) :=
  ⟨load_timedDisk, timeout_of_load load_timedDisk⟩

/-- Not every project that is loaded gives its build a positive time. -/
theorem not_forall_positive :
    ¬ ∀ (disk : Disk) (path : Path) (project : Project), load disk path = .ok project →
      project.build.timeout.Positive := by
  intro h
  cases h _ _ _ load_timedDisk_nan

end Project

end ProviderGen
