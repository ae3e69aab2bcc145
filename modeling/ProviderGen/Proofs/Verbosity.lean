import ProviderGen.Proofs.Loading
import ProviderGen.Proofs.Options
import ProviderGen.Proofs.Requests

namespace ProviderGen.CommandLine

/-- A request that is verbose besides, if that is asked for. -/
def Request.orVerbose (request : Request) (asks : Bool) : Request :=
  { request with verbose := request.verbose || asks }

/-- What has been asked for, and a verbose run besides, if that is asked for. -/
def Asked.orVerbose (asked : Asked) (asks : Bool) : Asked :=
  { asked with request := asked.request.orVerbose asks }

section Insertion

variable {asks : Bool} {scope : Scope} {name operand choice : String}
  {names arguments : List String} {asked : Asked}

theorem Request.set?_orVerbose (request : Request) (asks : Bool) (switch : Switch)
    (value : String) :
    (request.orVerbose asks).set? switch value =
      (request.set? switch value).map (·.orVerbose asks) := by
  cases switch with
  | verbose => simp [set?, orVerbose]
  | help => rfl
  | project => rfl
  | skipBuild => rfl
  | logFile => rfl

theorem Request.setAll_orVerbose (scope : Scope) (request : Request) (asks : Bool)
    (switches : List Switch) :
    (request.orVerbose asks).setAll scope switches =
      (·.orVerbose asks) <$> request.setAll scope switches := by
  induction switches generalizing request with
  | nil => rfl
  | cons switch switches ih =>
      rw [setAll, setAll, set?_orVerbose]
      cases request.set? switch "" with
      | none => rfl
      | some next => exact ih next

theorem Request.setValue_orVerbose (scope : Scope) (request : Request) (asks : Bool)
    (switch : Switch) (value : String) :
    (request.orVerbose asks).setValue scope switch value =
      (·.orVerbose asks) <$> request.setValue scope switch value := by
  rw [setValue, setValue, set?_orVerbose]
  cases request.set? switch value <;> rfl

theorem Asked.switch_orVerbose (scope : Scope) (asked : Asked) (asks : Bool) (switch : Switch)
    (name : String) (value : Option String) :
    (asked.orVerbose asks).switch scope switch name value =
      (·.orVerbose asks) <$> asked.switch scope switch name value := by
  have hset : ∀ value, (asked.orVerbose asks).request.setValue scope switch value =
      (·.orVerbose asks) <$> asked.request.setValue scope switch value :=
    fun value => Request.setValue_orVerbose scope asked.request asks switch value
  have hsetAll : ∀ switches, (asked.orVerbose asks).request.setAll scope switches =
      (·.orVerbose asks) <$> asked.request.setAll scope switches :=
    fun switches => Request.setAll_orVerbose scope asked.request asks switches
  unfold Asked.switch
  split
  · simp only [hset, map_bind, bind_map_left]
    rfl
  · simp only [hsetAll, map_bind, bind_map_left]
    rfl

theorem keeps_orVerbose (asks : Bool) :
    Keeps (fun _ => True) fun first second => second = first.orVerbose asks where
  extra := by
    rintro first _ text rfl
    rfl
  output := by
    rintro first _ output rfl
    rfl
  switch := by
    rintro scope text switch name given value first _ - - rfl
    rw [Asked.switch_orVerbose]
    cases first.switch scope switch name value with
    | error error => exact .error _ _
    | ok next => exact .ok rfl

theorem kindOf_verbose (scope : Scope) (hname : name ∈ Switch.verbose.names) :
    kindOf scope name = .ok (.switch .verbose name none) ∧ name ≠ "--" := by
  obtain rfl | rfl : name = "-v" ∨ name = "--verbose" := by simpa [Switch.names] using hname
  · cases scope <;> exact ⟨rfl, by decide⟩
  · cases scope <;> exact ⟨rfl, by decide⟩

theorem Asked.orVerbose_orVerbose (asked : Asked) (first second : Bool) :
    (asked.orVerbose first).orVerbose second = asked.orVerbose (first || second) := by
  simp [orVerbose, Request.orVerbose, Bool.or_assoc]

theorem Asked.orVerbose_false (asked : Asked) : asked.orVerbose false = asked := by
  simp [orVerbose, Request.orVerbose]

theorem Asked.switch_verbose (scope : Scope) (asked : Asked) (name : String) :
    asked.switch scope .verbose name none = .ok (asked.orVerbose true) := by
  simp only [orVerbose, Request.orVerbose, Bool.or_true]
  rfl

theorem askChoice_verbose (inside : Asked → List String → Except Refusal Asked) (asked : Asked)
    (name : String) (sorted : List Argument) :
    askChoice scope operand choice inside asked (⟨name, .switch .verbose name none⟩ :: sorted) =
      askChoice scope operand choice inside (asked.orVerbose true) sorted := by
  rw [askChoice, Asked.switch_verbose]
  rfl

theorem askModels_verbose (asked : Asked) (name : String) (sorted : List Argument) :
    askModels asked false (⟨name, .switch .verbose name none⟩ :: sorted) =
      askModels (asked.orVerbose true) false sorted := by
  rw [askModels_flag rfl, Asked.switch_verbose]
  rfl

theorem withSorted_names {α : Type} {run : Asked → List Argument → Except Refusal α}
    (hrun : ∀ asked name sorted, run asked (⟨name, .switch .verbose name none⟩ :: sorted) =
      run (asked.orVerbose true) sorted)
    (hnames : ∀ name ∈ names, name ∈ Switch.verbose.names) :
    withSorted scope (names ++ arguments) (run asked) =
      withSorted scope arguments (run (asked.orVerbose !names.isEmpty)) := by
  induction names generalizing asked with
  | nil => simp [Asked.orVerbose_false]
  | cons name names ih =>
      obtain ⟨hname, hnames⟩ := List.forall_mem_cons.mp hnames
      obtain ⟨hkind, hdashes⟩ := kindOf_verbose scope hname
      calc
        _ = withSorted scope (names ++ arguments)
              fun sorted => run asked (⟨name, .switch .verbose name none⟩ :: sorted) :=
          withSorted_cons hdashes hkind _
        _ = withSorted scope (names ++ arguments) (run (asked.orVerbose true)) := by
          simp only [hrun]
        _ = withSorted scope arguments
              (run ((asked.orVerbose true).orVerbose !names.isEmpty)) := ih hnames
        _ = _ := by rw [Asked.orVerbose_orVerbose]; rfl

theorem withSorted_skip {α : Type} (result : Except Refusal α)
    (hnames : ∀ name ∈ names, name ∈ Switch.verbose.names) :
    withSorted scope (names ++ arguments) (fun _ => result) =
      withSorted scope arguments fun _ => result := by
  induction names with
  | nil => rfl
  | cons name names ih =>
      obtain ⟨hname, hnames⟩ := List.forall_mem_cons.mp hnames
      obtain ⟨hkind, hdashes⟩ := kindOf_verbose scope hname
      rw [List.cons_append, withSorted_cons hdashes hkind]
      exact ih hnames

theorem inProgram_insert {first second third : List String}
    (hfirst : ∀ name ∈ first, name ∈ Switch.verbose.names)
    (hsecond : ∀ name ∈ second, name ∈ Switch.verbose.names)
    (hthird : ∀ name ∈ third, name ∈ Switch.verbose.names) (asked : Asked) (rest : List String) :
    inProgram asked (first ++ "generate" :: (second ++ "models" :: (third ++ rest))) =
      inTarget (asked.orVerbose (!first.isEmpty || (!second.isEmpty || !third.isEmpty))) rest := by
  -- From the innermost scope outwards. A scope also sorts the names that are meant for those inside
  -- it, but does no more with them.
  have hmodels : ∀ asked, inModels asked (third ++ rest) =
      inModels (asked.orVerbose !third.isEmpty) rest :=
    fun asked => withSorted_names askModels_verbose hthird
  have hgenerate : ∀ asked, inGenerate asked (second ++ "models" :: (third ++ rest)) =
      withSorted .generate rest fun _ =>
        inModels (asked.orVerbose (!second.isEmpty || !third.isEmpty)) rest := by
    intro asked
    rw [inGenerate_eq, withSorted_names (askChoice_verbose inModels) hsecond,
      withSorted_choice (by decide) rfl, withSorted_skip _ hthird, hmodels,
      Asked.orVerbose_orVerbose]
  rw [inProgram, withSorted_names (askChoice_verbose inGenerate) hfirst,
    withSorted_choice (by decide) rfl, withSorted_skip _ hsecond, withSorted_cons (by decide) rfl,
    withSorted_skip _ hthird, hgenerate, Asked.orVerbose_orVerbose, inTarget]

theorem ask_insert {first second third rest : List String} {request : Request}
    (h : ask ("generate" :: "models" :: rest) = .ok request)
    (hfirst : ∀ name ∈ first, name ∈ Switch.verbose.names)
    (hsecond : ∀ name ∈ second, name ∈ Switch.verbose.names)
    (hthird : ∀ name ∈ third, name ∈ Switch.verbose.names) :
    ask (first ++ "generate" :: (second ++ "models" :: (third ++ rest))) =
      .ok (request.orVerbose (!first.isEmpty || (!second.isEmpty || !third.isEmpty))) := by
  -- Without any names the run is the given one; with names only its start differs.
  have hnone : ∀ name ∈ ([] : List String), name ∈ Switch.verbose.names := by simp
  have hplain := inProgram_insert hnone hnone hnone ⟨.standard, []⟩ rest
  have hagree := (keeps_orVerbose (!first.isEmpty || (!second.isEmpty || !third.isEmpty))).inTarget
    (fun text (_ : text ∈ rest) => trivial) (rfl : _ = Asked.orVerbose ⟨.standard, []⟩ _)
  rw [ask_eq_ok_iff] at h ⊢
  rw [inProgram_insert hfirst hsecond hthird]
  obtain ⟨next, hnext, rfl⟩ := hagree.exists_of_ok (hplain.symm.trans h)
  exact hnext

end Insertion

section Quiet

variable {scope : Scope} {switch : Switch} {name : String} {value : Option String}
  {request next : Request} {switches : List Switch}

/-- A text that does not begin like the names that ask for a verbose run. -/
def Quiet (text : String) : Prop :=
  ¬ "-v".toList <+: text.toList ∧ ¬ "--v".toList <+: text.toList

theorem ne_verbose_of_quiet {text : String} (hquiet : Quiet text)
    (h : kindOf scope text = .ok (.switch switch name value)) : switch ≠ .verbose := by
  rintro rfl
  rcases (means_of_kindOf h).begins with hshort | hlong
  · exact hquiet.1 hshort
  · exact hquiet.2 hlong

theorem Request.verbose_set? {text : String} (hswitch : switch ≠ .verbose)
    (h : request.set? switch text = some next) : next.verbose = request.verbose := by
  cases switch with
  | help => cases h
  | verbose => exact absurd rfl hswitch
  | project =>
      obtain rfl := Option.some.inj h
      rfl
  | skipBuild =>
      obtain rfl := Option.some.inj h
      rfl
  | logFile =>
      obtain rfl := Option.some.inj h
      rfl

theorem Request.setAll_singleton (scope : Scope) (request : Request) (switch : Switch) :
    request.setAll scope [switch] = request.setValue scope switch "" := by
  rw [setAll, setValue]
  cases request.set? switch "" with
  | none => rfl
  | some next => rfl

theorem Request.verbose_setValue {text : String} (hswitch : switch ≠ .verbose)
    (h : request.setValue scope switch text = .ok next) : next.verbose = request.verbose := by
  rw [setValue] at h
  cases hset : request.set? switch text with
  | none =>
      rw [hset] at h
      cases h
  | some found =>
      rw [hset] at h
      obtain rfl := Except.ok.inj h
      exact verbose_set? hswitch hset

theorem exists_of_joined {text : List Char} (h : joined scope switch text = .ok switches) :
    ∃ more, switches = switch :: more := by
  cases text with
  | nil => exact ⟨[], (Except.ok.inj h).symm⟩
  | cons c rest =>
      rw [joined] at h
      split at h
      next other hlookup =>
        cases hrest : joined scope other rest with
        | error error => rw [hrest] at h; cases h
        | ok others =>
            rw [hrest] at h
            exact ⟨others, (Except.ok.inj h).symm⟩
      next => cases h

theorem switchesOf_cases (h : switchesOf scope switch name value = .ok switches) :
    switches = [switch] ∨ (∃ more, switches = switch :: more) ∧ name.length = 2 := by
  cases value with
  | none => exact .inl (Except.ok.inj h).symm
  | some value =>
      rw [switchesOf] at h
      split at h
      next hshort =>
        simp only [Bool.and_eq_true, decide_eq_true_eq] at hshort
        exact .inr ⟨exists_of_joined h, hshort.1⟩
      next => cases h

theorem short_switchNames (scope : Scope) :
    ∀ entry ∈ scope.switchNames, entry.1.length = 2 → entry.2 = .help ∨ entry.2 = .verbose := by
  cases scope <;> decide

theorem Asked.verbose_switch {asked after : Asked} (hmem : (name, switch) ∈ scope.switchNames)
    (hswitch : switch ≠ .verbose) (h : asked.switch scope switch name value = .ok after) :
    after.request.verbose = asked.request.verbose := by
  unfold Asked.switch at h
  split at h
  next given htakes =>
    obtain ⟨request, hrequest, h⟩ := bind_eq_ok_iff.mp h
    obtain rfl := Except.ok.inj h
    exact Request.verbose_setValue hswitch hrequest
  next =>
    obtain ⟨switches, hswitches, h⟩ := bind_eq_ok_iff.mp h
    obtain ⟨request, hrequest, h⟩ := bind_eq_ok_iff.mp h
    obtain rfl := Except.ok.inj h
    rcases switchesOf_cases (mapError_eq_ok_iff.mp hswitches) with rfl | ⟨⟨more, rfl⟩, hshort⟩
    · rw [Request.setAll_singleton] at hrequest
      exact Request.verbose_setValue hswitch hrequest
    · -- Only the one for help is left, and what is joined to that is never reached.
      rcases short_switchNames scope _ hmem hshort with rfl | rfl
      · cases hrequest
      · exact absurd rfl hswitch

theorem keeps_verbose (asks : Bool) :
    Keeps Quiet fun first second => first = second ∧ second.request.verbose = asks where
  extra := by
    rintro first _ text ⟨rfl, hverbose⟩
    exact ⟨rfl, hverbose⟩
  output := by
    rintro first _ output ⟨rfl, hverbose⟩
    exact ⟨rfl, hverbose⟩
  switch := by
    rintro scope text switch name given value first _ hquiet hkind ⟨rfl, hverbose⟩
    have hswitch := ne_verbose_of_quiet hquiet hkind
    cases h : first.switch scope switch name value with
    | error error => exact .error _ _
    | ok next =>
        refine .ok ⟨rfl, ?_⟩
        rw [Asked.verbose_switch (means_of_kindOf hkind).mem hswitch h, hverbose]

theorem verbose_of_quiet {arguments : List String} (h : ask arguments = .ok request)
    (hquiet : ∀ text ∈ arguments, Quiet text) : request.verbose = false := by
  have hagree := (keeps_verbose false).inProgram hquiet
    (⟨rfl, rfl⟩ : Asked.mk .standard [] = ⟨.standard, []⟩ ∧ _)
  obtain ⟨_, -, rfl, hverbose⟩ := hagree.exists_of_ok (ask_eq_ok_iff.mp h)
  exact hverbose

end Quiet

/-- Arguments for a run of the target are as good with names for a verbose run in front of the
command, between the command and the target, and right behind the target, or at several of these
places; they ask for the same then, but verbosely. And where no argument begins like these names, a
run that is asked for is not verbose. -/
theorem ask_verbose_anywhere :
    (∀ rest request, ask ("generate" :: "models" :: rest) = .ok request →
      ∀ first second third : List String,
        (∀ name ∈ first ++ second ++ third, name = "-v" ∨ name = "--verbose") →
        first ++ second ++ third ≠ [] →
        ask (first ++ "generate" :: (second ++ "models" :: (third ++ rest))) =
          .ok { request with verbose := true }) ∧
      ∀ arguments request, ask arguments = .ok request →
        (∀ argument ∈ arguments,
          ¬ "-v".toList <+: argument.toList ∧ ¬ "--v".toList <+: argument.toList) →
        request.verbose = false := by
  constructor
  · intro rest request h first second third hnames hne
    have hverbose : ∀ name ∈ first ++ second ++ third, name ∈ Switch.verbose.names := by
      intro name hname
      simpa [Switch.names] using hnames name hname
    obtain ⟨⟨hfirst, hsecond⟩, hthird⟩ := by simpa only [List.forall_mem_append] using hverbose
    have hasks : (!first.isEmpty || (!second.isEmpty || !third.isEmpty)) = true := by
      simpa [List.isEmpty_iff, imp_iff_not_or] using hne
    rw [ask_insert h hfirst hsecond hthird, hasks]
    simp [Request.orVerbose]
  · intro arguments request h hquiet
    exact verbose_of_quiet h hquiet

/-- Arguments with shortened options, and with an operand that looks like an option. -/
def shelfArguments : List String := ["--proj=shelf", "--skip", "--log-file", "-", "--", "-out"]

def shelfRequest : Request := ⟨false, some "-out", "shelf", true, some "-"⟩

theorem ask_verbose_anywhere_shelf :
    ask ("generate" :: "models" :: shelfArguments) = .ok shelfRequest ∧
      ask (["-v"] ++ "generate" :: (["--verbose", "-v"] ++ "models" :: ([] ++ shelfArguments))) =
        .ok { shelfRequest with verbose := true } ∧
      shelfRequest.verbose = false := by
  have hask : ask ("generate" :: "models" :: shelfArguments) = .ok shelfRequest := by
    decide +kernel
  refine ⟨hask, ?_, ?_⟩
  · exact ask_verbose_anywhere.1 shelfArguments shelfRequest hask ["-v"] ["--verbose", "-v"] []
      (by decide) (by decide)
  · exact ask_verbose_anywhere.2 _ shelfRequest hask (by decide)

end ProviderGen.CommandLine
