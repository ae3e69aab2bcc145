import Mathlib.Data.List.Basic
import ProviderGen.CommandLine.Request

namespace ProviderGen.CommandLine

variable {scope : Scope} {switch : Switch} {argument name : String} {value : Option String}

/-- An argument that means an option: it begins with a text with which one name of the option begins
and no other name in the scope. -/
structure Means (scope : Scope) (text : List Char) (name : String) (switch : Switch) : Prop where
  mem : (name, switch) ∈ scope.switchNames
  exists_start : ∃ start, start <+: text ∧ start <+: name.toList ∧
    ∀ other ∈ scope.switchNames, start <+: other.1.toList → other = (name, switch)

theorem eq_of_prefix_switchNames (scope : Scope) :
    ∀ entry ∈ scope.switchNames, ∀ other ∈ scope.switchNames,
      entry.1.toList <+: other.1.toList → other = entry := by
  cases scope <;> decide

theorem means_of_mem {text : List Char} (hmem : (name, switch) ∈ scope.switchNames)
    (hbegins : name.toList <+: text) : Means scope text name switch where
  mem := hmem
  exists_start := ⟨name.toList, hbegins, List.prefix_refl _,
    eq_of_prefix_switchNames scope (name, switch) hmem⟩

theorem mem_switchNames_of_lookup (h : scope.switchNames.lookup name = some switch) :
    (name, switch) ∈ scope.switchNames := by
  obtain ⟨before, after, hnames, -⟩ := List.lookup_eq_some_iff.mp h
  simp [hnames]

theorem of_filterMap_eq_singleton {α β : Type} {f : α → Option β} {entries : List α} {found : β}
    (h : entries.filterMap f = [found]) :
    (∃ entry ∈ entries, f entry = some found) ∧
      ∀ entry ∈ entries, ∀ other, f entry = some other → other = found := by
  constructor
  · apply List.mem_filterMap.mp
    rw [h]
    exact List.mem_singleton_self found
  · intro entry hentry other hother
    have hmem : other ∈ entries.filterMap f := List.mem_filterMap.mpr ⟨entry, hentry, hother⟩
    rw [h] at hmem
    exact List.mem_singleton.mp hmem

theorem means_of_only {text start : List Char}
    {found : String × Switch → Option (Switch × String × Option String)}
    (honly : scope.switchNames.filterMap found = [(switch, name, value)])
    (hmem : (name, switch) ∈ scope.switchNames) (htext : start <+: text)
    (hname : start <+: name.toList)
    (hfound : ∀ entry, start <+: entry.1.toList →
      ∃ given, found entry = some (entry.2, entry.1, given)) :
    Means scope text name switch := by
  refine ⟨hmem, start, htext, hname, ?_⟩
  intro entry hentry hstart
  obtain ⟨given, hgiven⟩ := hfound entry hstart
  have hsame := (of_filterMap_eq_singleton honly).2 entry hentry _ hgiven
  obtain ⟨hswitch, hentry, -⟩ := by simpa only [Prod.mk.injEq] using hsame
  exact Prod.ext hentry hswitch

theorem means_of_abbreviated {text : List Char}
    (h : abbreviated scope text = [(switch, name, value)]) : Means scope text name switch := by
  unfold abbreviated at h
  split at h
  -- Two dashes: the start is what stands in front of the equals sign.
  next rest =>
    obtain ⟨⟨⟨entry, option⟩, hentry, hfound⟩, -⟩ := of_filterMap_eq_singleton h
    obtain ⟨hbegins, heq⟩ := Option.ite_none_right_eq_some.mp hfound
    cases heq
    apply means_of_only h hentry (List.takeWhile_prefix _) (List.isPrefixOf_iff_prefix.mp hbegins)
    intro entry hstart
    exact ⟨_, if_pos (List.isPrefixOf_iff_prefix.mpr hstart)⟩
  -- One dash: a short name with more joined to it, or the start of a name with nothing behind it.
  next first second rest hdashes =>
    obtain ⟨⟨⟨entry, option⟩, hentry, hfound⟩, -⟩ := of_filterMap_eq_singleton h
    simp only at hfound
    split at hfound
    next hshort =>
      cases hfound
      apply means_of_mem hentry
      rw [hshort]
      exact List.prefix_append [first, second] rest
    next =>
      obtain ⟨hbegins, heq⟩ := Option.ite_none_right_eq_some.mp hfound
      cases heq
      apply means_of_only h hentry (List.prefix_refl _) (List.isPrefixOf_iff_prefix.mp hbegins)
      rintro ⟨entry, option⟩ hstart
      simp only
      split
      · exact ⟨_, rfl⟩
      · exact ⟨_, if_pos (List.isPrefixOf_iff_prefix.mpr hstart)⟩
  next => cases h

theorem means_of_kindOf (h : kindOf scope argument = .ok (.switch switch name value)) :
    Means scope argument.toList name switch := by
  unfold kindOf at h
  simp only at h
  split at h
  · cases h
  · split at h
    next found hlookup =>
      cases h
      exact means_of_mem (mem_switchNames_of_lookup hlookup) (List.prefix_refl _)
    next =>
      split at h
      · cases h
      · split at h
        next start given hgiven hlookup =>
          cases h
          apply means_of_mem (mem_switchNames_of_lookup hlookup)
          rw [String.toList_ofList]
          exact List.takeWhile_prefix _
        next =>
          split at h
          next habbreviated =>
            cases h
            exact means_of_abbreviated habbreviated
          next => split at h <;> cases h
          next => cases h

theorem Means.begins {text : List Char} (h : Means scope text name .verbose) :
    "-v".toList <+: text ∨ "--v".toList <+: text := by
  obtain ⟨hmem, start, htext, hname, honly⟩ := h
  have hhelp : ∀ name ∈ Switch.help.names, (name, .help) ∈ scope.switchNames := by
    cases scope <;> decide
  -- A start that is no longer than what the two names have in common would mean help as well.
  have hbegins : ∀ mark common other : String, mark.toList <+: name.toList →
      common.toList <+: name.toList → mark.toList.length ≤ common.toList.length + 1 →
      common.toList <+: other.toList → other ∈ Switch.help.names → mark.toList <+: text := by
    intro mark common other hmark hcommon hlength hother hmem
    by_cases hshort : start.length ≤ common.toList.length
    · have hstart := List.prefix_of_prefix_length_le hname hcommon hshort
      cases honly _ (hhelp other hmem) (hstart.trans hother)
    · exact (List.prefix_of_prefix_length_le hmark hname (by omega)).trans htext
  obtain rfl | rfl : name = "-v" ∨ name = "--verbose" := by
    cases scope <;> simpa [Scope.switchNames, Scope.switches, Switch.names] using hmem
  · exact .inl (hbegins "-v" "-" "-h" (by decide) (by decide) (by decide) (by decide) (by decide))
  · exact .inr
      (hbegins "--v" "--" "--help" (by decide) (by decide) (by decide) (by decide) (by decide))

end ProviderGen.CommandLine
