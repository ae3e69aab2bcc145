import ProviderGen.Interpreter.Common
import ProviderGen.Proofs.Agreement
import ProviderGen.Proofs.Loading

/-!
Which configurations are found wrong as such, and which ones are tripped over: documents whose
scalars are not what they seem, numbers that are too long or too large, and commands that end in the
middle of a word.
-/

namespace ProviderGen

namespace Setting

variable {value : Value} {error : TooLong}

theorem text?_eq_error_iff : text? value = .error error ↔
    ∃ n, value = .integer n ∧ Number.integerText? n = none := by
  cases value with
  | integer n =>
      cases hlong : Number.integerText? n <;> simp [text?, integerText, hlong, Except.map]
  | _ => simp [text?]

theorem itemText?_eq_error_iff : itemText? value = .error error ↔
    ∃ n, value = .integer n ∧ Number.integerText? n = none := by
  cases value with
  | truth _ => simp [itemText?]
  | _ => simpa only [itemText?] using text?_eq_error_iff

theorem texts_eq_error_iff : texts value = .error error ↔
    ∃ items n, value = .list items ∧ .integer n ∈ items ∧ Number.integerText? n = none := by
  cases value with
  | list items =>
      simp only [texts, bind_eq_error_iff, pure, Except.pure, reduceCtorEq, and_false,
        exists_false, or_false, Value.list.injEq, exists_and_left, exists_eq_left']
      constructor
      · intro h
        obtain ⟨item, hitem, herror⟩ := exists_of_mapM_error h
        obtain ⟨n, rfl, hlong⟩ := itemText?_eq_error_iff.mp herror
        exact ⟨n, hitem, hlong⟩
      · rintro ⟨n, hitem, hlong⟩
        cases hresult : items.mapM itemText? with
        | error other => rfl
        | ok texts =>
            obtain ⟨text, htext⟩ := exists_of_mapM hresult hitem
            have herror := (@itemText?_eq_error_iff _ .mk).mpr ⟨n, rfl, hlong⟩
            cases (htext.symm.trans herror)
  | _ => simp [texts]

theorem real?_eq_error_iff {error : TooLarge} : real? value = .error error ↔
    ∃ n, value = .integer n ∧ Binary64.ofInt? n = none := by
  cases value with
  | integer n => cases hlarge : Binary64.ofInt? n <;> simp [real?, hlarge]
  | _ => simp [real?]

end Setting

namespace Project

open Setting

variable {value : Value} {entries settings : List (String × Value)} {error : ConfigurationError}

theorem textsOf_eq_error_iff :
    ((texts value).mapError fun _ => ConfigurationError.longInteger) = .error error ↔
      error = .longInteger ∧
        ∃ items n, value = .list items ∧ .integer n ∈ items ∧ Number.integerText? n = none := by
  rw [mapError_eq_error_iff]
  constructor
  · rintro ⟨flaw, hflaw, rfl⟩
    exact ⟨rfl, texts_eq_error_iff.mp hflaw⟩
  · rintro ⟨rfl, hlong⟩
    exact ⟨.mk, texts_eq_error_iff.mpr hlong, rfl⟩

/-- The commands that cannot be read: a text that ends inside quotes or after a backslash, and a
list that holds a number that is too long. -/
theorem commandOf_eq_error_iff : commandOf value = .error error ↔
    (∃ text flaw, value = .text text ∧ Text.commandWords text = .error flaw ∧
        error = .command flaw) ∨
      error = .longInteger ∧
        ∃ items n, value = .list items ∧ .integer n ∈ items ∧ Number.integerText? n = none := by
  have hother := @textsOf_eq_error_iff value error
  cases value with
  | text text => simp [commandOf, mapError_eq_error_iff, @eq_comm _ error]
  | _ => simpa [commandOf] using hother

theorem timeoutOf_eq_hugeTimeout_iff : timeoutOf entries = .error .hugeTimeout ↔
    ∃ n, Value.lookup "timeout" entries = some (.integer n) ∧ Binary64.ofInt? n = none := by
  unfold timeoutOf
  cases Value.lookup "timeout" entries with
  | none => simp
  | some value =>
      simp only [Option.some.injEq, ← @real?_eq_error_iff value .mk]
      cases real? value with
      | error large => cases large; simp
      | ok limit =>
          cases limit with
          | none => simp
          | some seconds => cases hzero : seconds.isAtMostZero <;> simp [hzero]

theorem timeoutOf_eq_error (h : timeoutOf entries = .error error) :
    error = .hugeTimeout ∨ error = .flawed .wrongTimeout := by
  unfold timeoutOf at h
  split at h
  · cases h
  · split at h
    · exact .inl (Except.error.inj h).symm
    · exact .inr (Except.error.inj h).symm
    · split at h
      · exact .inr (Except.error.inj h).symm
      · cases h

/-- The keys whose values are read as texts. -/
def textKeys : List String := ["name", "source_dir", "output_dir"]

def buildSettings (settings : List (String × Value)) : List (String × Value) :=
  Setting.entries (valueOf settings "build")

/-- Settings whose texts and models can be read. -/
structure ReachesBuild (settings : List (String × Value)) : Prop where
  texts : ∀ key ∈ textKeys, ∃ text, text? (valueOf settings key) = .ok text
  models : ∃ discovery, discoveryOf (Setting.entries (valueOf settings "models")) = .ok discovery

/-- What settings are tripped over for: a number too long to be written out where a text is wanted
or, in the build command, an item, a command that ends in the middle of a word, and a number too
large for a limit of time. What comes after a flaw is not looked at. -/
inductive TripsOver (settings : List (String × Value)) : ConfigurationError → Prop
  | longText {key : String} {n : Int} (hkey : key ∈ textKeys)
      (hvalue : valueOf settings key = .integer n) (hlong : Number.integerText? n = none) :
      TripsOver settings .longInteger
  | command {text : String} {flaw : Text.CommandWordError} (hbuild : ReachesBuild settings)
      (hvalue : valueOf (buildSettings settings) "command" = .text text)
      (hwords : Text.commandWords text = .error flaw) : TripsOver settings (.command flaw)
  | longItem {items : List Value} {n : Int} (hbuild : ReachesBuild settings)
      (hvalue : valueOf (buildSettings settings) "command" = .list items)
      (hitem : .integer n ∈ items) (hlong : Number.integerText? n = none) :
      TripsOver settings .longInteger
  | hugeTimeout {n : Int} (hbuild : ReachesBuild settings)
      (hcommand : ∃ words, commandOf (valueOf (buildSettings settings) "command") = .ok words)
      (hvalue : Value.lookup "timeout" (buildSettings settings) = some (.integer n))
      (hlarge : Binary64.ofInt? n = none) : TripsOver settings .hugeTimeout

/-- The text of a key; nothing of an empty one. -/
def textOf (settings : List (String × Value)) (key : String) :
    Except ConfigurationError (Option String) :=
  match text? (valueOf settings key) with
  | .ok text => .ok (text.filter (· ≠ ""))
  | .error _ => .error .longInteger

theorem ofSettings_eq (root : Path) (settings : List (String × Value)) :
    ofSettings root settings = (do
      let name ← textOf settings "name"
      let source ← textOf settings "source_dir"
      let output ← textOf settings "output_dir"
      let discovery ←
        (discoveryOf (Setting.entries (valueOf settings "models"))).mapError .flawed
      let command ← commandOf (valueOf (buildSettings settings) "command")
      let timeout ← timeoutOf (buildSettings settings)
      return {
        root := root
        name := name.getD root.name
        sourceDirectory := root.under (.ofString (source.getD "."))
        outputDirectory := output.map fun text => root.under (.ofString text)
        discovery := discovery
        build := ⟨command, timeout⟩ }) := rfl

theorem textOf_eq_error_iff {key : String} : textOf settings key = .error error ↔
    error = .longInteger ∧
      ∃ n, valueOf settings key = .integer n ∧ Number.integerText? n = none := by
  unfold textOf
  rw [← @text?_eq_error_iff _ .mk]
  cases text? (valueOf settings key) with
  | error long => cases long; simp [eq_comm]
  | ok text => simp

theorem exists_textOf_iff {key : String} : (∃ text, textOf settings key = .ok text) ↔
    ∃ text, text? (valueOf settings key) = .ok text := by
  unfold textOf
  cases text? (valueOf settings key) <;> simp

theorem ofSettings_outcome (root : Path) (settings : List (String × Value)) :
    (∃ project, ofSettings root settings = .ok project) ∨
      (∃ flaw, ofSettings root settings = .error (.flawed flaw)) ∨
        ∃ error, ofSettings root settings = .error error ∧ TripsOver settings error := by
  cases h : ofSettings root settings with
  | ok project => exact .inl ⟨project, rfl⟩
  | error error =>
      have hlong : ∀ key ∈ textKeys, textOf settings key = .error error →
          TripsOver settings error := by
        intro key hkey htext
        obtain ⟨rfl, n, hvalue, hlong⟩ := textOf_eq_error_iff.mp htext
        exact .longText hkey hvalue hlong
      -- What fails first is the outcome: a text, the models, the command, or the limit of time.
      simp only [ofSettings_eq, bind_eq_error_iff, mapError_eq_error_iff, mapError_eq_ok_iff] at h
      rcases h with h | ⟨name, hname, h | ⟨source, hsource, h | ⟨output, houtput, h⟩⟩⟩
      · exact .inr (.inr ⟨error, rfl, hlong _ (by decide) h⟩)
      · exact .inr (.inr ⟨error, rfl, hlong _ (by decide) h⟩)
      · exact .inr (.inr ⟨error, rfl, hlong _ (by decide) h⟩)
      rcases h with ⟨flaw, -, rfl⟩ | ⟨discovery, hmodels, h⟩
      · exact .inr (.inl ⟨flaw, rfl⟩)
      have hbuild : ReachesBuild settings := by
        refine ⟨?_, discovery, hmodels⟩
        simp only [textKeys, List.forall_mem_cons, List.not_mem_nil, false_imp_iff, implies_true,
          and_true, ← exists_textOf_iff]
        exact ⟨⟨name, hname⟩, ⟨source, hsource⟩, ⟨output, houtput⟩⟩
      rcases h with h | ⟨command, hcommand, h⟩
      · rcases commandOf_eq_error_iff.mp h with
          ⟨text, flaw, hvalue, hwords, rfl⟩ | ⟨rfl, items, n, hvalue, hitem, hlong⟩
        · exact .inr (.inr ⟨_, rfl, .command hbuild hvalue hwords⟩)
        · exact .inr (.inr ⟨_, rfl, .longItem hbuild hvalue hitem hlong⟩)
      rcases h with h | ⟨timeout, -, h⟩
      · rcases timeoutOf_eq_error h with rfl | rfl
        · obtain ⟨n, hvalue, hlarge⟩ := timeoutOf_eq_hugeTimeout_iff.mp h
          exact .inr (.inr ⟨_, rfl, .hugeTimeout hbuild ⟨command, hcommand⟩ hvalue hlarge⟩)
        · exact .inr (.inl ⟨_, rfl⟩)
      · cases h

theorem ofSettings_of_reachesBuild (hbuild : ReachesBuild settings) (root : Path) :
    ∃ make : List String → Binary64 → Project, ofSettings root settings = (do
      let command ← commandOf (valueOf (buildSettings settings) "command")
      let timeout ← timeoutOf (buildSettings settings)
      return make command timeout) := by
  obtain ⟨htexts, discovery, hmodels⟩ := hbuild
  have htext : ∀ key ∈ textKeys, ∃ text, textOf settings key = .ok text :=
    fun key hkey => exists_textOf_iff.mpr (htexts key hkey)
  obtain ⟨name, hname⟩ := htext "name" (by decide)
  obtain ⟨source, hsource⟩ := htext "source_dir" (by decide)
  obtain ⟨output, houtput⟩ := htext "output_dir" (by decide)
  rw [ofSettings_eq, hname, hsource, houtput, hmodels]
  exact ⟨_, rfl⟩

theorem ofSettings_of_longText {key : String} (hkey : key ∈ textKeys)
    (h : textOf settings key = .error .longInteger) (root : Path) :
    ofSettings root settings = .error .longInteger := by
  have htext : ∀ key, textOf settings key = .error .longInteger ∨
      ∃ text, textOf settings key = .ok text := by
    intro key
    cases htext : textOf settings key with
    | error error =>
        obtain ⟨rfl, -⟩ := textOf_eq_error_iff.mp htext
        exact .inl rfl
    | ok text => exact .inr ⟨text, rfl⟩
  rw [ofSettings_eq]
  rcases htext "name" with hname | ⟨name, hname⟩
  · rw [hname]
    rfl
  rcases htext "source_dir" with hsource | ⟨source, hsource⟩
  · rw [hname, hsource]
    rfl
  have houtput : textOf settings "output_dir" = .error .longInteger := by
    simp only [textKeys, List.mem_cons, List.not_mem_nil, or_false] at hkey
    rcases hkey with rfl | rfl | rfl
    · simp [hname] at h
    · simp [hsource] at h
    · exact h
  rw [hname, hsource, houtput]
  rfl

theorem ofSettings_of_tripsOver (h : TripsOver settings error) (root : Path) :
    ofSettings root settings = .error error := by
  cases h with
  | longText hkey hvalue hlong =>
      exact ofSettings_of_longText hkey (textOf_eq_error_iff.mpr ⟨rfl, _, hvalue, hlong⟩) root
  | command hbuild hvalue hwords =>
      obtain ⟨make, hmake⟩ := ofSettings_of_reachesBuild hbuild root
      rw [hmake, commandOf_eq_error_iff.mpr (.inl ⟨_, _, hvalue, hwords, rfl⟩)]
      rfl
  | longItem hbuild hvalue hitem hlong =>
      obtain ⟨make, hmake⟩ := ofSettings_of_reachesBuild hbuild root
      rw [hmake, commandOf_eq_error_iff.mpr (.inr ⟨rfl, _, _, hvalue, hitem, hlong⟩)]
      rfl
  | hugeTimeout hbuild hcommand hvalue hlarge =>
      obtain ⟨make, hmake⟩ := ofSettings_of_reachesBuild hbuild root
      obtain ⟨words, hwords⟩ := hcommand
      rw [hmake, hwords, timeoutOf_eq_hugeTimeout_iff.mpr ⟨_, hvalue, hlarge⟩]
      rfl

variable {disk : Disk} {path root file : Path}

/-- A file has some text, which is not blank. -/
def HasText (disk : Disk) (file : Path) (text : String) : Prop :=
  ∃ bytes chars, disk.readBytes file = .ok bytes ∧ Text.decodeStrictly bytes = .ok chars ∧
    Text.trim (Text.unifyLines chars) ≠ [] ∧ text = String.ofList (Text.unifyLines chars)

section Reading

variable [Interpreter]

theorem readSettings_of_text {bytes : List UInt8} {chars : List Char}
    (hbytes : disk.readBytes file = .ok bytes) (hchars : Text.decodeStrictly bytes = .ok chars) :
    readSettings disk file =
      if Text.trim (Text.unifyLines chars) = [] then .ok []
      else settingsOf (String.ofList (Text.unifyLines chars)) := by
  simp only [readSettings, hbytes, hchars, mapError_ok, bind, Except.bind]
  rfl

theorem readSettings_of_hasText {text : String} (htext : HasText disk file text) :
    readSettings disk file = settingsOf text := by
  obtain ⟨bytes, chars, hbytes, hchars, hsome, rfl⟩ := htext
  rw [readSettings_of_text hbytes hchars, if_neg hsome]

/-- What reading a document trips over: the reader breaks down on it, or a scalar is not what it
seems. Half of a surrogate pair is neither; what comes of it is left open. -/
inductive DocumentTrips (text : String) : ConfigurationError → Prop
  | brokenDown {message : String} (hbroken : Interpreter.documentBreakdown? text = some message) :
      DocumentTrips text (.brokenDown message)
  | scalar {scalar : Yaml.DocumentError} (hreads : Interpreter.documentBreakdown? text = none)
      (hread : Yaml.read text = .error scalar) (hscalar : scalar ≠ .malformed)
      (hwhole : scalar ≠ .halfCharacter) :
      DocumentTrips text (.document scalar)

/-- A document is read up to half of a surrogate pair. -/
def HoldsHalf (text : String) : Prop :=
  Interpreter.documentBreakdown? text = none ∧ Yaml.read text = .error .halfCharacter

theorem settingsOf_of_trips {text : String} {error : ConfigurationError}
    (h : DocumentTrips text error) :
    settingsOf text = .error error ∧ ∀ flaw, error ≠ .flawed flaw := by
  cases h with
  | brokenDown hbroken => simp [settingsOf, hbroken]
  | @scalar scalar hreads hread hscalar hwhole =>
      refine ⟨?_, nofun⟩
      cases scalar with
      | malformed => exact absurd rfl hscalar
      | _ => simp [settingsOf, hreads, hread]

theorem settingsOf_of_half {text : String} (h : HoldsHalf text) :
    settingsOf text = .error (.document .halfCharacter) := by
  simp [settingsOf, h.1, h.2]

theorem settingsOf_outcome (text : String) :
    (∃ settings, settingsOf text = .ok settings) ∨
      (∃ flaw, settingsOf text = .error (.flawed flaw)) ∨
        (∃ error, settingsOf text = .error error ∧ DocumentTrips text error) ∨
          HoldsHalf text := by
  cases hbroken : Interpreter.documentBreakdown? text with
  | some message =>
      have htrips : DocumentTrips text (.brokenDown message) := .brokenDown hbroken
      exact .inr (.inr (.inl ⟨_, (settingsOf_of_trips htrips).1, htrips⟩))
  | none =>
  cases hread : Yaml.read text with
  | error scalar =>
      by_cases hscalar : scalar = .malformed
      · subst hscalar
        have hmalformed : settingsOf text =
            .error (.flawed (.malformed (Interpreter.documentComplaint text))) := by
          simp only [settingsOf, hbroken, hread]
        exact .inr (.inl ⟨_, hmalformed⟩)
      by_cases hwhole : scalar = .halfCharacter
      · subst hwhole
        exact .inr (.inr (.inr ⟨hbroken, hread⟩))
      have htrips : DocumentTrips text (.document scalar) := .scalar hbroken hread hscalar hwhole
      exact .inr (.inr (.inl ⟨_, (settingsOf_of_trips htrips).1, htrips⟩))
  | ok value =>
      cases value with
      | null => exact .inl ⟨[], by simp only [settingsOf, hbroken, hread]⟩
      | mapping entries => exact .inl ⟨entries, by simp only [settingsOf, hbroken, hread]⟩
      | _ => exact .inr (.inl ⟨.notMapping, by simp only [settingsOf, hbroken, hread]⟩)

theorem readSettings_outcome (disk : Disk) (file : Path) :
    (∃ settings, readSettings disk file = .ok settings) ∨
      (∃ flaw, readSettings disk file = .error (.flawed flaw)) ∨
        ∃ text, HasText disk file text ∧
          ((∃ error, readSettings disk file = .error error ∧ DocumentTrips text error) ∨
            HoldsHalf text) := by
  cases hbytes : disk.readBytes file with
  | error error =>
      refine .inr (.inl ⟨.refused error, ?_⟩)
      simp [readSettings, hbytes, bind, Except.bind]
  | ok bytes =>
  cases hchars : Text.decodeStrictly bytes with
  | error flaw =>
      refine .inr (.inl ⟨.notText flaw, ?_⟩)
      simp [readSettings, hbytes, hchars, bind, Except.bind]
  | ok chars =>
      have hsettings := readSettings_of_text hbytes hchars
      by_cases hblank : Text.trim (Text.unifyLines chars) = []
      · exact .inl ⟨[], by rw [hsettings, if_pos hblank]⟩
      rw [if_neg hblank] at hsettings
      have htext : HasText disk file (String.ofList (Text.unifyLines chars)) :=
        ⟨bytes, chars, hbytes, hchars, hblank, rfl⟩
      rw [hsettings]
      rcases settingsOf_outcome (String.ofList (Text.unifyLines chars)) with
        hread | hflaw | htrips | hhalf
      · exact .inl hread
      · exact .inr (.inl hflaw)
      · exact .inr (.inr ⟨_, htext, .inl htrips⟩)
      · exact .inr (.inr ⟨_, htext, .inr hhalf⟩)

/-- The settings of the project in a directory, which may have no configuration file. -/
def settingsIn (disk : Disk) (root : Path) : Except ConfigurationError (List (String × Value)) :=
  if disk.isThere (root.child configurationFile) then
    readSettings disk (root.child configurationFile)
  else .ok []

/-- What loading the project in a directory trips over: its document, or what the settings in the
document are tripped over for. -/
inductive Trips (disk : Disk) (root : Path) : ConfigurationError → Prop
  | document {text : String} {error : ConfigurationError}
      (htext : HasText disk (root.child configurationFile) text)
      (htrips : DocumentTrips text error) :
      Trips disk root error
  | settings {settings : List (String × Value)} {error : ConfigurationError}
      (hsettings : settingsIn disk root = .ok settings) (htrips : TripsOver settings error) :
      Trips disk root error

omit [Interpreter] in
theorem isThere_of_readBytes {bytes : List UInt8} (h : disk.readBytes path = .ok bytes) :
    disk.isThere path := by
  unfold Disk.readBytes at h
  unfold Disk.isThere
  split at h
  · cases h
  next hlocate => simp [hlocate]
  · cases h
  · cases h

theorem settingsIn_of_hasText {text : String}
    (htext : HasText disk (root.child configurationFile) text) :
    settingsIn disk root = settingsOf text := by
  obtain ⟨bytes, chars, hbytes, -⟩ := id htext
  rw [settingsIn, if_pos (isThere_of_readBytes hbytes), readSettings_of_hasText htext]

theorem load_eq (habsolute : path.isAbsolute) (hresolve : disk.resolve path = .ok root)
    (hdirectory : disk.isDirectory root) :
    load disk path = settingsIn disk root >>= ofSettings root := by
  have hexpand : expandHome disk path = some path := by
    obtain ⟨anchor, names⟩ := path
    cases anchor with
    | relative => cases habsolute
    | root => rfl
    | doubleRoot => rfl
  simp only [load, hexpand, hresolve, hdirectory, settingsIn, mapError_ok, bind, Except.bind,
    Bool.not_true, Bool.false_eq_true, if_false]
  cases disk.isThere (root.child configurationFile) <;> rfl

/-- What loading the project in an existing directory comes to: a project, a flaw of the
configuration, or an error that is none, which comes exactly of what is tripped over. What a document
with half of a surrogate pair in it comes to is left open. -/
theorem load_outcome (habsolute : path.isAbsolute) (hresolve : disk.resolve path = .ok root)
    (hdirectory : disk.isDirectory root) :
    ((∃ project, load disk path = .ok project) ∨
      (∃ flaw, load disk path = .error (.flawed flaw)) ∨
        (∃ error, load disk path = .error error ∧ Trips disk root error) ∨
          ∃ text, HasText disk (root.child configurationFile) text ∧ HoldsHalf text) ∧
    (∀ error, Trips disk root error →
      load disk path = .error error ∧ ∀ flaw, error ≠ .flawed flaw) := by
  rw [load_eq habsolute hresolve hdirectory]
  constructor
  · cases hsettings : settingsIn disk root with
    | ok settings =>
        rcases ofSettings_outcome root settings with hproject | hflaw | ⟨error, herror, htrips⟩
        · exact .inl hproject
        · exact .inr (.inl hflaw)
        · exact .inr (.inr (.inl ⟨error, herror, .settings hsettings htrips⟩))
    | error error =>
        refine .inr ?_
        unfold settingsIn at hsettings
        split at hsettings
        · rcases readSettings_outcome disk (root.child configurationFile) with
            ⟨settings, hread⟩ | ⟨flaw, hread⟩ | ⟨text, htext, ⟨other, hread, htrips⟩ | hhalf⟩
          · cases hread.symm.trans hsettings
          · obtain rfl := Except.error.inj (hread.symm.trans hsettings)
            exact .inl ⟨flaw, rfl⟩
          · obtain rfl := Except.error.inj (hread.symm.trans hsettings)
            exact .inr (.inl ⟨_, rfl, .document htext htrips⟩)
          · exact .inr (.inr ⟨text, htext, hhalf⟩)
        · cases hsettings
  · intro error htrips
    cases htrips with
    | document htext htrips =>
        obtain ⟨hsettings, hother⟩ := settingsOf_of_trips htrips
        refine ⟨?_, hother⟩
        rw [settingsIn_of_hasText htext, hsettings]
        rfl
    | settings hsettings htrips =>
        refine ⟨?_, ?_⟩
        · rw [hsettings]
          exact ofSettings_of_tripsOver htrips root
        · rintro flaw rfl
          cases htrips

end Reading

open Interpreter.Common

/-- A disk with a project whose build command ends inside quotes. -/
def quoteDisk : Disk where
  root := .directory
    [("app", .directory
      [(".modelgen.yml", .file (Text.encode "build:\n  command: \"it's\"\n"))])]
  current := ["app"]
  home := "/home"

theorem load_quoteDisk :
    load quoteDisk ⟨.root, ["app"]⟩ = .error (.command .openQuote) := by
  decide +kernel

theorem load_outcome_quoteDisk :
    (⟨.root, ["app"]⟩ : Path).isAbsolute ∧
      quoteDisk.resolve ⟨.root, ["app"]⟩ = .ok ⟨.root, ["app"]⟩ ∧
      quoteDisk.isDirectory ⟨.root, ["app"]⟩ ∧
      load quoteDisk ⟨.root, ["app"]⟩ = .error (.command .openQuote) ∧
      Trips quoteDisk ⟨.root, ["app"]⟩ (.command .openQuote) := by
  have hresolve : quoteDisk.resolve ⟨.root, ["app"]⟩ = .ok ⟨.root, ["app"]⟩ := rfl
  have hdirectory : quoteDisk.isDirectory ⟨.root, ["app"]⟩ := rfl
  refine ⟨rfl, hresolve, hdirectory, load_quoteDisk, ?_⟩
  rcases (load_outcome rfl hresolve hdirectory).1 with
    ⟨project, hproject⟩ | ⟨flaw, hflaw⟩ | ⟨error, herror, htrips⟩ | ⟨text, htext, hhalf⟩
  · cases load_quoteDisk.symm.trans hproject
  · cases load_quoteDisk.symm.trans hflaw
  · obtain rfl := Except.error.inj (load_quoteDisk.symm.trans herror)
    exact htrips
  · have hload := load_quoteDisk
    rw [load_eq rfl hresolve hdirectory, settingsIn_of_hasText htext,
      settingsOf_of_half hhalf] at hload
    cases hload

/-- Not every failure to load the project in an existing directory is a flaw of its
configuration. -/
theorem not_forall_load_flawed :
    ¬ ∀ (disk : Disk) (path root : Path), path.isAbsolute → disk.resolve path = .ok root →
      disk.isDirectory root →
      (∃ project, load disk path = .ok project) ∨
        ∃ flaw, load disk path = .error (.flawed flaw) := by
  intro h
  have hload := h quoteDisk ⟨.root, ["app"]⟩ ⟨.root, ["app"]⟩ rfl rfl rfl
  rw [load_quoteDisk] at hload
  simp at hload

end Project

end ProviderGen
