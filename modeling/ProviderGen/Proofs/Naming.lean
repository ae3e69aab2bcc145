import Mathlib.Data.List.TakeWhile
import ProviderGen.Interpreter.Common
import ProviderGen.Proofs.Imports

namespace ProviderGen

namespace Text

variable {c : Char}

theorem scriptZeros_ranges : (scriptZeros.all fun base => base == 0x30 ||
    identifierParts.any fun range =>
      Nat.ble 0x80 base && Nat.ble range.1 base && Nat.ble (base + 9) range.2) = true := by
  decide +kernel

theorem exists_range_of_mem_scriptZeros {base : Nat} (h : base ∈ scriptZeros) :
    base = 0x30 ∨ 0x80 ≤ base ∧ ∃ range ∈ identifierParts, range.1 ≤ base ∧ base + 9 ≤ range.2 := by
  have hbase := List.all_eq_true.mp scriptZeros_ranges base h
  simp only [Bool.or_eq_true, beq_iff_eq, List.any_eq_true, Bool.and_eq_true, Nat.ble_eq] at hbase
  refine hbase.imp_right ?_
  rintro ⟨range, hrange, ⟨hhigh, hstart⟩, hstop⟩
  exact ⟨hhigh, range, hrange, hstart, hstop⟩

theorem isDecimalDigit_iff :
    isDecimalDigit c = true ↔ ∃ base ∈ scriptZeros, base ≤ c.toNat ∧ c.toNat < base + 10 := by
  simp [isDecimalDigit, decimalValue?]

theorem isIdentifierPart_of_isAlphanum (h : c.isAlphanum = true) (hascii : c.toNat < 0x80) :
    isIdentifierPart c = true := by
  rw [isIdentifierPart, if_pos hascii, h, Bool.true_or]

theorem isIdentifierPart_of_isDecimalDigit (h : isDecimalDigit c = true) :
    isIdentifierPart c = true := by
  obtain ⟨base, hbase, hlow, hhigh⟩ := isDecimalDigit_iff.mp h
  rcases exists_range_of_mem_scriptZeros hbase with rfl | ⟨habove, range, hrange, hstart, hstop⟩
  · have hdigit : c.isDigit = true := by
      simp only [Char.isDigit, Bool.and_eq_true, decide_eq_true_eq]
      exact ⟨hlow, Nat.le_of_lt_succ hhigh⟩
    exact isIdentifierPart_of_isAlphanum (by rw [Char.isAlphanum, hdigit, Bool.or_true]) (by omega)
  · rw [isIdentifierPart, if_neg (by omega)]
    exact CharSet.has_eq_true_iff.mpr ⟨range, hrange, by omega, by omega⟩

theorem isIdentifier_append {text more : List Char} (h : isIdentifier text = true)
    (hmore : ∀ c ∈ more, isIdentifierPart c = true) : isIdentifier (text ++ more) = true := by
  cases text with
  | nil => cases h
  | cons first rest =>
      rw [isIdentifier, Bool.and_eq_true] at h
      rw [List.cons_append, isIdentifier, h.1, List.all_append, h.2, Bool.true_and, Bool.true_and]
      exact List.all_eq_true.mpr hmore

end Text

/-- A letter of ASCII or a digit of any script. -/
def IsWordPart (c : Char) : Prop :=
  isCapital c = true ∨ isSmall c = true ∨ Text.isDecimalDigit c = true

section Characters

variable {c : Char}

theorem isAlpha_of_letter (h : isCapital c = true ∨ isSmall c = true) :
    c.toNat < 0x80 ∧ c.isAlpha = true := by
  have halpha : c.isAlpha = (decide ('A'.val ≤ c.val ∧ c.val ≤ 'Z'.val) ||
      (decide ('a'.val ≤ c.val) && decide (c.val ≤ 'z'.val))) := rfl
  simp only [isCapital, isSmall, Bool.and_eq_true, decide_eq_true_eq] at h
  simp only [halpha, Bool.or_eq_true, Bool.and_eq_true, decide_eq_true_eq]
  rcases h with ⟨hlow, hhigh⟩ | ⟨hlow, hhigh⟩
  · exact ⟨Nat.lt_of_le_of_lt hhigh (by decide), .inl ⟨hlow, hhigh⟩⟩
  · exact ⟨Nat.lt_of_le_of_lt hhigh (by decide), .inr ⟨hlow, hhigh⟩⟩

theorem isIdentifierStart_of_letter (h : isCapital c = true ∨ isSmall c = true) :
    Text.isIdentifierStart c = true := by
  obtain ⟨hascii, halpha⟩ := isAlpha_of_letter h
  rw [Text.isIdentifierStart, if_pos hascii, halpha, Bool.true_or]

theorem IsWordPart.isIdentifierPart (h : IsWordPart c) : Text.isIdentifierPart c = true := by
  have hletter : isCapital c = true ∨ isSmall c = true → Text.isIdentifierPart c = true := by
    intro hletter
    obtain ⟨hascii, halpha⟩ := isAlpha_of_letter hletter
    exact Text.isIdentifierPart_of_isAlphanum (by rw [Char.isAlphanum, halpha, Bool.true_or]) hascii
  rcases h with h | h | h
  · exact hletter (.inl h)
  · exact hletter (.inr h)
  · exact Text.isIdentifierPart_of_isDecimalDigit h

theorem isCapital_toUpper (h : isSmall c = true) : isCapital c.toUpper = true := by
  have hascii : ∀ n < 0x80, isSmall (Char.ofNat n) = true → isCapital (Char.ofNat n).toUpper = true := by
    decide
  have hc := hascii c.toNat (isAlpha_of_letter (.inr h)).1
  rw [Char.ofNat_toNat] at hc
  exact hc h

theorem isSmall_toLower (h : isCapital c = true) : isSmall c.toLower = true := by
  have hascii : ∀ n < 0x80, isCapital (Char.ofNat n) = true → isSmall (Char.ofNat n).toLower = true := by
    decide
  have hc := hascii c.toNat (isAlpha_of_letter (.inl h)).1
  rw [Char.ofNat_toNat] at hc
  exact hc h

theorem toUpper_of_not_small (h : isSmall c = false) : c.toUpper = c := by
  simp only [isSmall, Bool.and_eq_false_iff, decide_eq_false_iff_not] at h
  exact dif_neg fun hbounds => h.elim (· hbounds.1) (· hbounds.2)

theorem toLower_of_not_capital (h : isCapital c = false) : c.toLower = c := by
  simp only [isCapital, Bool.and_eq_false_iff, decide_eq_false_iff_not] at h
  exact dif_neg fun hbounds => h.elim (· hbounds.1) (· hbounds.2)

theorem IsWordPart.toUpper (h : IsWordPart c) : IsWordPart c.toUpper := by
  cases hsmall : isSmall c with
  | true => exact .inl (isCapital_toUpper hsmall)
  | false => rwa [toUpper_of_not_small hsmall]

theorem IsWordPart.toLower (h : IsWordPart c) : IsWordPart c.toLower := by
  cases hcapital : isCapital c with
  | true => exact .inr (.inl (isSmall_toLower hcapital))
  | false => rwa [toLower_of_not_capital hcapital]

end Characters

section Words

variable {text word : List Char} {c : Char}

theorem isWordPart_of_mem_take (h : c ∈ text.take (wordLength text)) : IsWordPart c := by
  obtain ⟨capitals, hcapitals⟩ : ∃ capitals, text.takeWhile isCapital = capitals := ⟨_, rfl⟩
  obtain ⟨smalls, hsmalls⟩ : ∃ smalls, (text.dropWhile isCapital).takeWhile isSmall = smalls :=
    ⟨_, rfl⟩
  have hletters : ∀ c ∈ capitals ++ smalls, IsWordPart c := by
    simp only [List.forall_mem_append, ← hcapitals, ← hsmalls]
    exact ⟨fun c hc => .inl (List.mem_takeWhile_imp hc),
      fun c hc => .inr (.inl (List.mem_takeWhile_imp hc))⟩
  have hprefix : capitals ++ smalls <+: text := by
    rw [← hcapitals, ← hsmalls]
    conv => rhs; rw [← List.takeWhile_append_dropWhile (p := isCapital) (l := text)]
    exact (List.prefix_append_right_inj _).mpr (List.takeWhile_prefix _)
  -- A word of letters lies within the capitals and small letters at the start.
  have htake : ∀ {length}, length ≤ (capitals ++ smalls).length → c ∈ text.take length →
      IsWordPart c := by
    intro length hlength hc
    obtain ⟨rest, rfl⟩ := hprefix
    rw [List.take_append_of_le_length hlength] at hc
    exact hletters c (List.mem_of_mem_take hc)
  rw [List.length_append] at htake
  simp only [wordLength, hcapitals, hsmalls] at h
  split at h
  · split at h
    · have hdigits := List.takeWhile_prefix (l := text) Text.isDecimalDigit
      rw [← List.prefix_iff_eq_take.mp hdigits] at h
      exact .inr (.inr (List.mem_takeWhile_imp h))
    · exact htake (Nat.le_add_right _ _) h
  · split at h
    · exact htake (Nat.le_add_left _ _) h
    · exact htake (by omega) h
    · exact htake (by omega) h

theorem isWordPart_of_mem_wordsWithin {bound : Nat} (hword : word ∈ wordsWithin bound text)
    (hc : c ∈ word) : IsWordPart c := by
  induction bound generalizing text with
  | zero => cases hword
  | succ bound ih =>
      cases text with
      | nil => cases hword
      | cons first rest =>
          unfold wordsWithin at hword
          split at hword
          · exact ih hword
          next length hlength =>
            rcases List.mem_cons.mp hword with rfl | hword
            · have hmem : c ∈ (first :: rest).take (wordLength (first :: rest)) := by
                rwa [hlength, List.take_succ_cons]
              exact isWordPart_of_mem_take hmem
            · exact ih hword

theorem isWordPart_of_mem_capitalised (hword : ∀ c ∈ word, IsWordPart c)
    (hc : c ∈ capitalised word) : IsWordPart c := by
  cases word with
  | nil => cases hc
  | cons first rest =>
      rw [List.forall_mem_cons] at hword
      rcases List.mem_cons.mp hc with rfl | hc
      · exact hword.1.toUpper
      · obtain ⟨d, hd, rfl⟩ := List.mem_map.mp hc
        exact (hword.2 d hd).toLower

theorem isWordPart_of_mem_capitalised_wordsOf
    (hc : c ∈ (wordsOf text).flatMap capitalised) : IsWordPart c := by
  obtain ⟨word, hword, hc⟩ := List.mem_flatMap.mp hc
  exact isWordPart_of_mem_capitalised (fun d hd => isWordPart_of_mem_wordsWithin hword hd) hc

end Words

theorem isIdentifier_pascalCase (text : String) :
    Text.isIdentifier (pascalCase text).toList = true := by
  have hall : ∀ c ∈ (wordsOf text.toList).flatMap capitalised, IsWordPart c :=
    fun c hc => isWordPart_of_mem_capitalised_wordsOf hc
  unfold pascalCase
  split
  · decide
  next first rest hjoined =>
    rw [hjoined, List.forall_mem_cons] at hall
    obtain ⟨hfirst, hrest⟩ := hall
    have hparts : rest.all Text.isIdentifierPart = true :=
      List.all_eq_true.mpr fun c hc => (hrest c hc).isIdentifierPart
    split
    · -- A digit in front is shielded by an underscore.
      rw [String.toList_ofList, Text.isIdentifier, List.all_cons, hfirst.isIdentifierPart, hparts]
      decide
    next hdigit =>
      have hstart : Text.isIdentifierStart first = true := by
        rcases hfirst with hcapital | hsmall | hfirst
        · exact isIdentifierStart_of_letter (.inl hcapital)
        · exact isIdentifierStart_of_letter (.inr hsmall)
        · exact absurd hfirst hdigit
      rw [String.toList_ofList, Text.isIdentifier, hstart, hparts]
      rfl

theorem isIdentifier_providerName (projectName : String) :
    Text.isIdentifier (providerName projectName).toList = true := by
  rw [providerName, String.toList_append]
  exact Text.isIdentifier_append (isIdentifier_pascalCase projectName)
    (List.all_eq_true.mp (by decide))

namespace Provider

theorem source_of_modules {models : List Model} {className : String}
    (hname : Text.isIdentifier className.toList = true)
    (hmodules : ∀ model ∈ models, ∃ module, model.module = .ok module) (projectName : String) :
    ∃ imports, Registry.imports ⟨models⟩ = .ok imports ∧
      source ⟨models⟩ className projectName =
        if className ∈ Registry.names ⟨models⟩ then .error (.nameClash className)
        else .ok (textWith ⟨models⟩ className projectName imports) := by
  obtain ⟨imports, himports⟩ := Registry.exists_imports_iff.mpr hmodules
  refine ⟨imports, himports, ?_⟩
  rw [source_eq, himports, if_neg (by simp [hname])]
  rfl

theorem name_of_source {registry : Registry} {className projectName text : String}
    (h : source registry className projectName = .ok text) :
    Text.isIdentifier className.toList = true ∧ className ∉ registry.names := by
  rw [source_eq] at h
  split at h
  · cases h
  next hname =>
  split at h
  · cases h
  next hclash =>
  exact ⟨by simpa using hname, hclash⟩

end Provider

namespace Workplace

variable {workplace : Workplace} {paths : List Path} {models : List Model}

theorem exists_module_of_mem_analyze [Interpreter]
    (h : (workplace.analyze paths).result = .ok models)
    {model : Model} (hmodel : model ∈ models) : ∃ module, model.module = .ok module := by
  obtain ⟨path, -, himport⟩ := exists_importPath_of_mem_analyze h hmodel
  exact (exists_of_importPath himport).1

/-- Whatever a project is called, its provider has an identifier for a name and each model that was
found has a module. The provider fails to be written exactly if a model has its name. -/
theorem source_fails_iff [Interpreter] (h : (workplace.analyze paths).result = .ok models)
    (projectName : String) :
    Text.isIdentifier (providerName projectName).toList = true ∧
      (∀ model ∈ models, ∃ module, model.module = .ok module) ∧
      ∀ error, Provider.source ⟨models⟩ (providerName projectName) projectName = .error error ↔
        error = .nameClash (providerName projectName) ∧
          ∃ model ∈ models, model.name = providerName projectName := by
  have hname := isIdentifier_providerName projectName
  have hmodules : ∀ model ∈ models, ∃ module, model.module = .ok module :=
    fun model hmodel => exists_module_of_mem_analyze h hmodel
  refine ⟨hname, hmodules, fun error => ?_⟩
  obtain ⟨imports, -, hsource⟩ := Provider.source_of_modules hname hmodules projectName
  have hclash : providerName projectName ∈ Registry.names ⟨models⟩ ↔
      ∃ model ∈ models, model.name = providerName projectName := List.mem_map
  rw [hsource, ← hclash]
  split
  next hmem => rw [and_iff_left hmem, Except.error.injEq, eq_comm]
  next hmem => exact ⟨fun hok => (by cases hok), fun hfails => absurd hfails.2 hmem⟩

open Interpreter.Common

/-- A workplace with a file that declares a model of a provider's name. -/
def clashWorkplace : Workplace where
  disk :=
    ⟨.directory [("pet.py", .file (Text.encode "class PetModelProvider:\n def to_json(s): 0\n"))],
      [], "/"⟩
  discovery := .standard
  root := ⟨.root, []⟩

theorem source_fails_iff_clashWorkplace :
    ∃ models, (clashWorkplace.analyze [⟨.root, ["pet.py"]⟩]).result = .ok models ∧
      Provider.source ⟨models⟩ (providerName "pet") "pet" =
        .error (.nameClash "PetModelProvider") := by
  have hname : providerName "pet" = "PetModelProvider" := by decide
  have hmodels : (clashWorkplace.analyze [⟨.root, ["pet.py"]⟩]).result =
      .ok [⟨"PetModelProvider", "pet.py", .ofMethod "to_json", .none⟩] := by
    decide +kernel
  obtain ⟨-, -, hfails⟩ := source_fails_iff hmodels "pet"
  refine ⟨_, hmodels, (hfails _).mpr ⟨by rw [hname], _, List.mem_singleton_self _, ?_⟩⟩
  exact hname.symm

end Workplace

end ProviderGen
