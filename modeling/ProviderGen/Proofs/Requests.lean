import ProviderGen.CommandLine.Request
import ProviderGen.Proofs.Agreement

namespace ProviderGen.CommandLine

section Steps

variable {switch : Switch} {name text value dashes : String} {asked : Asked} {taken : Bool}
  {rest : List Argument}

theorem Asked.extras_switch {scope : Scope} {given : Option String} {next : Asked}
    (h : asked.switch scope switch name given = .ok next) : next.extras = asked.extras := by
  unfold Asked.switch at h
  split at h
  · obtain ⟨request, -, h⟩ := bind_eq_ok_iff.mp h
    obtain rfl := Except.ok.inj h
    rfl
  · obtain ⟨switches, -, h⟩ := bind_eq_ok_iff.mp h
    obtain ⟨request, -, h⟩ := bind_eq_ok_iff.mp h
    obtain rfl := Except.ok.inj h
    rfl

theorem askModels_value (htakes : switch.takesValue = true) :
    askModels asked taken (⟨text, .switch switch name none⟩ :: ⟨value, .operand⟩ :: rest) =
      asked.switch .models switch name (some value) >>= fun next =>
        askModels next taken rest := by
  simp only [askModels, Asked.switch, htakes, if_true, bind_assoc, pure_bind]

theorem askModels_flag (htakes : switch.takesValue = false) :
    askModels asked taken (⟨text, .switch switch name none⟩ :: rest) =
      asked.switch .models switch name none >>= fun next => askModels next taken rest := by
  rw [askModels.eq_def]
  simp only [htakes, Bool.false_eq_true, if_false]

theorem askModels_operand_dashes :
    askModels asked false (⟨text, .operand⟩ :: ⟨dashes, .dashes⟩ :: rest) =
      askModels { asked with request := { asked.request with output := some text } } true rest := by
  simp only [askModels, Bool.false_eq_true, if_false]

theorem askModels_operand (hrest : ∀ text more, rest ≠ ⟨text, .dashes⟩ :: more) :
    askModels asked false (⟨text, .operand⟩ :: rest) =
      askModels { asked with request := { asked.request with output := some text } } true rest := by
  simp only [askModels, Bool.false_eq_true, if_false]

end Steps

/-- A relation of what has been asked for that every step keeps, as long as the arguments are of a
certain kind. -/
structure Keeps (accepts : String → Prop) (rel : Asked → Asked → Prop) : Prop where
  extra : ∀ first second text, rel first second → rel (first.extra text) (second.extra text)
  output : ∀ first second output, rel first second →
    rel { first with request := { first.request with output } }
      { second with request := { second.request with output } }
  switch : ∀ scope text switch name given value first second, accepts text →
    kindOf scope text = .ok (.switch switch name given) → rel first second →
    Agree rel (first.switch scope switch name value) (second.switch scope switch name value)

/-- An argument as sorting leaves it: an option is one by its text. -/
def Argument.Sound (accepts : String → Prop) (scope : Scope) (argument : Argument) : Prop :=
  accepts argument.text ∧ ∀ switch name value, argument.kind = .switch switch name value →
    kindOf scope argument.text = .ok argument.kind

section Runs

variable {accepts : String → Prop} {rel : Asked → Asked → Prop} {scope : Scope}
  {arguments : List Argument} {first second : Asked}

theorem Keeps.option (hkeeps : Keeps accepts rel) {text name : String} {switch : Switch}
    {given : Option String}
    (hsound : (⟨text, .switch switch name given⟩ : Argument).Sound accepts scope)
    (h : rel first second) (value : Option String) :
    Agree rel (first.switch scope switch name value) (second.switch scope switch name value) :=
  hkeeps.switch scope text switch name given value first second hsound.1
    (hsound.2 switch name given rfl) h

theorem Keeps.askModels (hkeeps : Keeps accepts rel) {taken : Bool}
    (harguments : ∀ argument ∈ arguments, argument.Sound accepts .models)
    (h : rel first second) :
    Agree rel (askModels first taken arguments) (askModels second taken arguments) := by
  -- By how the arguments are worked off: a value goes with the option in front of it, and dashes
  -- with the operand, so that a step may take two arguments.
  induction first, taken, arguments using askModels.induct generalizing second with
  | case1 first taken =>
      simp only [CommandLine.askModels]
      exact .ok h
  | case2 first taken text switch name htakes value rest ih =>
      obtain ⟨hoption, -, hrest⟩ := by simpa only [List.forall_mem_cons] using harguments
      rw [askModels_value htakes, askModels_value htakes]
      refine (hkeeps.option hoption h (some value)).bind_of_eq_ok ?_
      intro next next' heq hnext
      -- The run goes on with the request of `next` and the extras of `first`, which are the same.
      obtain ⟨request, extras⟩ := next
      obtain rfl : extras = first.extras := Asked.extras_switch heq
      exact ih request hrest hnext
  | case3 first taken text switch name rest htakes hrest =>
      simp only [CommandLine.askModels, htakes, if_true]
      exact .error _ _
  | case4 first taken text switch name rest htakes ih =>
      obtain ⟨hoption, hrest⟩ := List.forall_mem_cons.mp harguments
      have hflag : switch.takesValue = false := by simpa using htakes
      rw [askModels_flag hflag, askModels_flag hflag]
      refine (hkeeps.option hoption h none).bind ?_
      intro next next' hnext
      exact ih next hrest hnext
  | case5 first taken text switch name value rest ih =>
      obtain ⟨hoption, hrest⟩ := List.forall_mem_cons.mp harguments
      simp only [CommandLine.askModels]
      refine (hkeeps.option hoption h (some value)).bind ?_
      intro next next' hnext
      exact ih next hrest hnext
  | case6 first taken text rest ih =>
      simp only [CommandLine.askModels]
      exact ih (List.forall_mem_cons.mp harguments).2 (hkeeps.extra first second text h)
  | case7 first text rest ih =>
      simp only [CommandLine.askModels, if_true]
      exact ih (List.forall_mem_cons.mp harguments).2 (hkeeps.extra first second text h)
  | case8 first taken text htaken next dashes rest =>
      rename_i ih
      obtain rfl : taken = false := by simpa using htaken
      obtain ⟨-, -, hrest⟩ := by simpa only [List.forall_mem_cons] using harguments
      rw [askModels_operand_dashes, askModels_operand_dashes]
      exact ih hrest (hkeeps.output first second (some text) h)
  | case9 first taken text htaken next rest hdashes =>
      rename_i ih
      obtain rfl : taken = false := by simpa using htaken
      have hrest : ∀ text more, rest ≠ ⟨text, .dashes⟩ :: more := hdashes
      rw [askModels_operand hrest, askModels_operand hrest]
      exact ih (List.forall_mem_cons.mp harguments).2 (hkeeps.output first second (some text) h)
  | case10 first taken text rest ih =>
      simp only [CommandLine.askModels]
      refine ih (List.forall_mem_cons.mp harguments).2 ?_
      split
      · exact hkeeps.extra first second text h
      · exact h

theorem Keeps.askChoice (hkeeps : Keeps accepts rel) {operand choice : String}
    {inside : Asked → List String → Except Refusal Asked}
    (hinside : ∀ first second texts, (∀ text ∈ texts, accepts text) → rel first second →
      Agree rel (inside first texts) (inside second texts))
    (harguments : ∀ argument ∈ arguments, argument.Sound accepts scope) (h : rel first second) :
    Agree rel (askChoice scope operand choice inside first arguments)
      (askChoice scope operand choice inside second arguments) := by
  induction arguments generalizing first second with
  | nil => exact .error _ _
  | cons argument rest ih =>
      obtain ⟨hargument, hrest⟩ := List.forall_mem_cons.mp harguments
      obtain ⟨text, kind⟩ := argument
      cases kind with
      | switch switch name value =>
          simp only [CommandLine.askChoice]
          refine (hkeeps.option hargument h value).bind ?_
          intro next next' hnext
          exact ih hrest hnext
      | unknown => exact ih hrest (hkeeps.extra first second text h)
      | operand =>
          simp only [CommandLine.askChoice]
          split
          · apply hinside first second _ _ h
            intro text htext
            obtain ⟨argument, hmem, rfl⟩ := List.mem_map.mp htext
            exact (hrest argument hmem).1
          · exact .error _ _
      | dashes =>
          simp only [CommandLine.askChoice]
          split
          · exact .error _ _
          · exact .error _ _

end Runs

section Sorting

variable {α : Type} {scope : Scope} {text choice operand : String} {kind : ArgumentKind}
  {arguments : List String} {sorted : List Argument} {asked : Asked}

theorem sort_cons (hdashes : text ≠ "--") (hkind : kindOf scope text = .ok kind) :
    sort scope (text :: arguments) = (⟨text, kind⟩ :: ·) <$> sort scope arguments := by
  rw [sort, if_neg hdashes, hkind]
  rfl

theorem map_text_sort (h : sort scope arguments = .ok sorted) :
    sorted.map (·.text) = arguments := by
  induction arguments generalizing sorted with
  | nil =>
      obtain rfl := Except.ok.inj h
      rfl
  | cons text rest ih =>
      rw [sort] at h
      split at h
      · obtain rfl := Except.ok.inj h
        simp [Function.comp_def]
      · obtain ⟨kind, -, h⟩ := bind_eq_ok_iff.mp h
        obtain ⟨others, hothers, h⟩ := bind_eq_ok_iff.mp h
        obtain rfl := Except.ok.inj h
        rw [List.map_cons, ih hothers]

theorem sound_of_sort {accepts : String → Prop} (h : sort scope arguments = .ok sorted)
    (haccepts : ∀ text ∈ arguments, accepts text) :
    ∀ argument ∈ sorted, argument.Sound accepts scope := by
  induction arguments generalizing sorted with
  | nil =>
      obtain rfl := Except.ok.inj h
      simp
  | cons text rest ih =>
      obtain ⟨htext, hrest⟩ := List.forall_mem_cons.mp haccepts
      rw [sort] at h
      split at h
      · obtain rfl := Except.ok.inj h
        simp only [List.forall_mem_cons, List.forall_mem_map]
        exact ⟨⟨htext, by simp⟩, fun other hmem => ⟨hrest other hmem, by simp⟩⟩
      · obtain ⟨kind, hkind, h⟩ := bind_eq_ok_iff.mp h
        obtain ⟨others, hothers, h⟩ := bind_eq_ok_iff.mp h
        obtain rfl := Except.ok.inj h
        exact List.forall_mem_cons.mpr ⟨⟨htext, fun _ _ _ _ => hkind⟩, ih hothers hrest⟩

/-- What is made of the arguments of a scope once they are sorted. -/
def withSorted (scope : Scope) (arguments : List String)
    (run : List Argument → Except Refusal α) : Except Refusal α :=
  (sort scope arguments).mapError (.usage scope) >>= run

theorem withSorted_cons (hdashes : text ≠ "--") (hkind : kindOf scope text = .ok kind)
    (run : List Argument → Except Refusal α) :
    withSorted scope (text :: arguments) run =
      withSorted scope arguments fun sorted => run (⟨text, kind⟩ :: sorted) := by
  rw [withSorted, withSorted, sort_cons hdashes hkind]
  cases sort scope arguments with
  | error error => rfl
  | ok sorted => rfl

theorem withSorted_choice (hdashes : choice ≠ "--") (hchoice : kindOf scope choice = .ok .operand)
    (inside : Asked → List String → Except Refusal Asked) :
    withSorted scope (choice :: arguments) (askChoice scope operand choice inside asked) =
      withSorted scope arguments fun _ => inside asked arguments := by
  rw [withSorted_cons hdashes hchoice, withSorted, withSorted]
  cases h : sort scope arguments with
  | error error => rfl
  | ok sorted =>
      show askChoice scope operand choice inside asked (⟨choice, .operand⟩ :: sorted) =
        inside asked arguments
      rw [askChoice, if_pos rfl, map_text_sort h]

theorem agree_withSorted {accepts : String → Prop} {rel : Asked → Asked → Prop}
    {run run' : List Argument → Except Refusal Asked} (haccepts : ∀ text ∈ arguments, accepts text)
    (h : ∀ sorted, (∀ argument ∈ sorted, argument.Sound accepts scope) →
      Agree rel (run sorted) (run' sorted)) :
    Agree rel (withSorted scope arguments run) (withSorted scope arguments run') := by
  rw [withSorted, withSorted]
  cases hsorted : sort scope arguments with
  | error error => exact .error _ _
  | ok sorted => exact h sorted (sound_of_sort hsorted haccepts)

end Sorting

theorem inModels_eq (asked : Asked) (arguments : List String) :
    inModels asked arguments = withSorted .models arguments (askModels asked false) := rfl

theorem inGenerate_eq (asked : Asked) (arguments : List String) :
    inGenerate asked arguments =
      withSorted .generate arguments (askChoice .generate "target" "models" inModels asked) := rfl

/-- What the arguments of a command line come to before those are judged that nothing could be made
of. -/
def inProgram (asked : Asked) (arguments : List String) : Except Refusal Asked :=
  withSorted .program arguments (askChoice .program "command" "generate" inGenerate asked)

/-- What the arguments behind the command and its target come to. All scopes sort them. -/
def inTarget (asked : Asked) (arguments : List String) : Except Refusal Asked :=
  withSorted .program arguments fun _ => withSorted .generate arguments fun _ =>
    inModels asked arguments

theorem ask_eq_ok_iff {arguments : List String} {request : Request} :
    ask arguments = .ok request ↔ inProgram ⟨.standard, []⟩ arguments = .ok ⟨request, []⟩ := by
  have hask : ask arguments = inProgram ⟨.standard, []⟩ arguments >>= fun asked =>
      if asked.extras = [] then .ok asked.request
      else .error (.usage .program (.unrecognized asked.extras)) := by
    simp only [ask, inProgram, withSorted, bind_assoc]
    rfl
  rw [hask, bind_eq_ok_iff]
  constructor
  · rintro ⟨⟨found, extras⟩, hfound, h⟩
    split at h
    next hextras =>
      obtain rfl := Except.ok.inj h
      obtain rfl : extras = [] := hextras
      exact hfound
    next => cases h
  · intro h
    exact ⟨_, h, rfl⟩

section Keeping

variable {accepts : String → Prop} {rel : Asked → Asked → Prop} {texts : List String}
  {first second : Asked}

theorem Keeps.inModels (hkeeps : Keeps accepts rel) (htexts : ∀ text ∈ texts, accepts text)
    (h : rel first second) : Agree rel (inModels first texts) (inModels second texts) := by
  rw [inModels_eq, inModels_eq]
  exact agree_withSorted htexts fun _ hsorted => hkeeps.askModels hsorted h

theorem Keeps.inGenerate (hkeeps : Keeps accepts rel) (htexts : ∀ text ∈ texts, accepts text)
    (h : rel first second) : Agree rel (inGenerate first texts) (inGenerate second texts) := by
  rw [inGenerate_eq, inGenerate_eq]
  exact agree_withSorted htexts fun _ hsorted =>
    hkeeps.askChoice (fun _ _ _ htexts h => hkeeps.inModels htexts h) hsorted h

theorem Keeps.inProgram (hkeeps : Keeps accepts rel) (htexts : ∀ text ∈ texts, accepts text)
    (h : rel first second) : Agree rel (inProgram first texts) (inProgram second texts) :=
  agree_withSorted htexts fun _ hsorted =>
    hkeeps.askChoice (fun _ _ _ htexts h => hkeeps.inGenerate htexts h) hsorted h

theorem Keeps.inTarget (hkeeps : Keeps accepts rel) (htexts : ∀ text ∈ texts, accepts text)
    (h : rel first second) : Agree rel (inTarget first texts) (inTarget second texts) :=
  agree_withSorted htexts fun _ _ => agree_withSorted htexts fun _ _ => hkeeps.inModels htexts h

end Keeping

end ProviderGen.CommandLine
