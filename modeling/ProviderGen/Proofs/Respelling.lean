import ProviderGen.Text.Compatibility

namespace ProviderGen.Text

theorem forall_triplesOf {p : Char × Char × Char → Prop} {chars : List Char}
    (h : ∀ entry ∈ triplesOf chars, p entry) :
    ∀ entry ∈ triplesOf (String.ofList chars).toList, p entry := by
  rwa [String.toList_ofList]

set_option maxRecDepth 2000 in
theorem combinations_lines : ∀ line ∈ combinations, ∀ entry ∈ triplesOf line.toList,
    0x80 ≤ entry.2.1.toNat ∧ entry.2.2 ≠ 'ſ' := by
  rw [combinations]
  repeat
    refine List.forall_mem_cons.mpr ⟨?_, ?_⟩
    · refine forall_triplesOf ?_
      decide +kernel
  exact List.forall_mem_nil _

theorem combinationTable_entries {entry : Char × Char × Char} (h : entry ∈ combinationTable) :
    0x80 ≤ entry.2.1.toNat ∧ entry.2.2 ≠ 'ſ' := by
  obtain ⟨line, hline, hentry⟩ := List.mem_flatMap.mp h
  exact combinations_lines line hline entry hentry

theorem combined?_of_ascii {second : Char} (h : second.toNat < 0x80) (first : Char) :
    combined? first second = none := by
  have hvowel : ¬ firstVowel ≤ second.toNat := by
    simp only [firstVowel]
    omega
  have hfinal : ¬ beforeFinals < second.toNat := by
    simp only [beforeFinals]
    omega
  simp only [combined?, hvowel, hfinal, decide_false, Bool.and_false, Bool.false_and,
    Bool.false_eq_true, if_false, Option.map_eq_none_iff, List.find?_eq_none]
  rintro ⟨x, y, whole⟩ hmem heq
  have hhigh := (combinationTable_entries hmem).1
  simp only [Bool.and_eq_true, beq_iff_eq] at heq hhigh
  rw [heq.2] at hhigh
  omega

section

variable {text : List Char}

theorem combineFrom_of_ascii (h : ∀ c ∈ text, c.toNat < 0x80) (starter : Char) :
    combineFrom starter [] 0 (text.map (0, ·)) = starter :: text := by
  induction text generalizing starter with
  | nil => rfl
  | cons c text ih =>
      obtain ⟨hc, htext⟩ := List.forall_mem_cons.mp h
      simp [combineFrom, combined?_of_ascii hc, ih htext]

theorem combineAll_of_ascii (h : ∀ c ∈ text, c.toNat < 0x80) :
    combineAll (text.map (0, ·)) = text := by
  cases text with
  | nil => rfl
  | cons c text => exact combineFrom_of_ascii (List.forall_mem_cons.mp h).2 c

theorem orderMarks_of_ascii (h : ∀ c ∈ text, c.toNat < 0x80) :
    orderMarks text = text.map (0, ·) := by
  induction text with
  | nil => rfl
  | cons c text ih =>
      obtain ⟨hc, htext⟩ := List.forall_mem_cons.mp h
      have hclass : markClass c = 0 := by simp [markClass, hc]
      have hrest := ih htext
      rw [orderMarks] at hrest
      rw [orderMarks, List.foldr_cons, hrest]
      simp [hclass]

end

theorem takenApart_of_ascii {c : Char} (h : c.toNat < 0x80) (bound : Nat) :
    takenApart bound c = [c] := by
  cases bound with
  | zero => rfl
  | succ bound => exact if_pos h

theorem flatMap_takenApart_of_ascii (text : List Char) (h : ∀ c ∈ text, c.toNat < 0x80)
    (bound : Nat) : text.flatMap (takenApart bound) = text := by
  have hapart : text.map (takenApart bound) = text.map fun c => [c] :=
    List.map_congr_left fun c hc => takenApart_of_ascii (h c hc) bound
  rw [List.flatMap_def, hapart, ← List.flatMap_def, List.flatMap_singleton']

theorem ascii_of_all {text : String} (h : text.toList.all (·.toNat < 0x80) = true) :
    ∀ c ∈ text.toList, c.toNat < 0x80 := by
  simpa using h

theorem compatible_of_ascii {text : String} (h : ∀ c ∈ text.toList, c.toNat < 0x80) :
    compatible text = text := by
  have hall : text.toList.all (·.toNat < 0x80) = true := by simpa using h
  rw [compatible, if_pos hall]

theorem compatible_of_takenApart {text plain : String}
    (h : text.toList.flatMap (takenApart 4) = plain.toList)
    (hplain : ∀ c ∈ plain.toList, c.toNat < 0x80) : compatible text = plain := by
  by_cases hall : ∀ c ∈ text.toList, c.toNat < 0x80
  · rw [flatMap_takenApart_of_ascii _ hall] at h
    rw [compatible_of_ascii hall, String.toList_inj.mp h]
  · have hnot : ¬ text.toList.all (·.toNat < 0x80) = true := by simpa using hall
    rw [compatible, if_neg hnot, h, orderMarks_of_ascii hplain, combineAll_of_ascii hplain,
      String.ofList_toList]

theorem find?_pairsOf {p : Char × Char → Bool} {chars : List Char} {pair : Char × Char}
    (h : (pairsOf chars).find? p = some pair) :
    (pairsOf (String.ofList chars).toList).find? p = some pair := by
  rwa [String.toList_ofList]

theorem standsFor?_eq_some {c target : Char} (hwhole : ∀ entry ∈ combinationTable, entry.2.2 ≠ c)
    (h : equivalentTable.find? (fun pair => pair.1 == c) = some (c, target)) :
    standsFor? c = some [target] := by
  unfold standsFor?
  split
  · next first second whole hfound =>
      have heq := List.find?_some hfound
      exact absurd (by simpa using heq) (hwhole _ (List.mem_of_find?_eq_some hfound))
  split
  · next source found hfound =>
      obtain ⟨-, rfl⟩ := Prod.mk.inj (Option.some.inj (hfound.symm.trans h))
      rfl
  · next hnone => exact absurd (hnone.symm.trans h) (by simp)

theorem takenApart_of_standsFor? {c target : Char} (h : standsFor? c = some [target])
    (hletters : syllableLetters? c = none) (hc : ¬ c.toNat < 0x80) (htarget : target.toNat < 0x80)
    (bound : Nat) : takenApart (bound + 1) c = [target] := by
  refine (if_neg hc).trans ?_
  rw [hletters, h]
  simp [takenApart_of_ascii htarget]

theorem standsFor?_longS : standsFor? 'ſ' = some ['s'] := by
  refine standsFor?_eq_some (fun entry hmem => (combinationTable_entries hmem).2) ?_
  rw [equivalentTable, equivalents, List.flatMap_cons, List.find?_append, find?_pairsOf,
    Option.some_or]
  decide

/-- A name that is spelled with a long s. -/
def longName : String := "to_jſon"

theorem compatible_longName : compatible longName = "to_json" := by
  have hlong : takenApart 4 'ſ' = ['s'] :=
    takenApart_of_standsFor? standsFor?_longS (by decide) (by decide) (by decide) 3
  have htext : longName.toList = ['t', 'o', '_', 'j'] ++ 'ſ' :: ['o', 'n'] := by decide
  refine compatible_of_takenApart ?_ (ascii_of_all (by decide))
  have hfirst := flatMap_takenApart_of_ascii ['t', 'o', '_', 'j'] (by simp) 4
  have hlast := flatMap_takenApart_of_ascii ['o', 'n'] (by simp) 4
  rw [htext, List.flatMap_append, hfirst, List.flatMap_cons, hlong, hlast]
  decide

section Tables

variable {chars : List Char}

theorem mem_of_mem_triplesOf {entry : Char × Char × Char} (h : entry ∈ triplesOf chars) :
    entry.2.2 ∈ chars := by
  fun_induction triplesOf chars with
  | case1 a b c rest ih =>
      rcases List.mem_cons.mp h with rfl | h
      · simp
      · simp [ih h]
  | case2 => cases h

theorem mem_of_mem_pairsOf {entry : Char × Char} (h : entry ∈ pairsOf chars) : entry.1 ∈ chars := by
  fun_induction pairsOf chars with
  | case1 a b rest ih =>
      rcases List.mem_cons.mp h with rfl | h
      · simp
      · simp [ih h]
  | case2 => cases h

theorem mem_of_mem_groupsOf {entry : Char × List Char} (h : entry ∈ groupsOf chars) :
    entry.1 ∈ chars := by
  fun_induction groupsOf chars with
  | case1 => cases h
  | case2 c rest hblank ih =>
      obtain rfl := beq_iff_eq.mp hblank
      rcases List.mem_cons.mp h with rfl | h
      · simp
      · simp [ih h]
  | case3 c rest hblank groups hgroups ih =>
      rcases List.mem_cons.mp h with rfl | h
      · simp
      · simp [ih (by simp [hgroups, h])]
  | case4 c rest hblank first others groups _ hgroups ih =>
      rcases List.mem_cons.mp h with rfl | h
      · simp
      · simp [ih (by simp [hgroups, h])]
  | case5 c rest hblank hgroups ih =>
      obtain rfl := List.mem_singleton.mp h
      simp

theorem standsFor?_eq_none {c : Char} (hcombinations : ∀ line ∈ combinations, c ∉ line.toList)
    (hequivalents : ∀ line ∈ equivalents, c ∉ line.toList)
    (hexpansions : ∀ line ∈ expansions, c ∉ line.toList) : standsFor? c = none := by
  have hcombined : ∀ entry ∈ combinationTable, ¬ (entry.2.2 == c) = true := by
    rintro ⟨first, second, whole⟩ hentry heq
    obtain ⟨line, hline, hmem⟩ := List.mem_flatMap.mp hentry
    exact hcombinations line hline (beq_iff_eq.mp heq ▸ mem_of_mem_triplesOf hmem)
  have hequivalent : ∀ entry ∈ equivalentTable, ¬ (entry.1 == c) = true := by
    rintro ⟨source, target⟩ hentry heq
    obtain ⟨line, hline, hmem⟩ := List.mem_flatMap.mp hentry
    exact hequivalents line hline (beq_iff_eq.mp heq ▸ mem_of_mem_pairsOf hmem)
  have hexpanded : ∀ entry ∈ expansionTable, ¬ (entry.1 == c) = true := by
    rintro ⟨source, targets⟩ hentry heq
    obtain ⟨line, hline, hmem⟩ := List.mem_flatMap.mp hentry
    exact hexpansions line hline (beq_iff_eq.mp heq ▸ mem_of_mem_groupsOf hmem)
  unfold standsFor?
  rw [List.find?_eq_none.mpr ?combined]
  case combined => exact hcombined
  dsimp only
  rw [List.find?_eq_none.mpr ?equivalent]
  case equivalent => exact hequivalent
  dsimp only
  rw [List.find?_eq_none.mpr hexpanded]
  rfl

end Tables

theorem compatible_singleton {c : Char} (hletters : syllableLetters? c = none)
    (h : standsFor? c = none) : compatible (String.singleton c) = String.singleton c := by
  have happart : takenApart 4 c = [c] := by
    by_cases hc : c.toNat < 0x80
    · exact takenApart_of_ascii hc 4
    · refine (if_neg hc).trans ?_
      rw [hletters, h]
  have hcombined : combineAll (orderMarks [c]) = [c] := by
    by_cases hmark : markClass c = 0 <;>
      simp [orderMarks, insertMark, combineAll, combineFrom, hmark]
  unfold compatible
  split
  · rfl
  · rw [String.toList_singleton, List.flatMap_singleton, happart, hcombined,
      String.singleton_eq_ofList]

theorem not_mem_of_contains {c : Char} {chars : List Char} (h : chars.contains c = false) :
    c ∉ (String.ofList chars).toList := by
  simpa using h

set_option maxRecDepth 4000 in
theorem combinations_longI : ∀ line ∈ combinations, '𐐀' ∉ line.toList := by
  rw [combinations]
  repeat
    refine List.forall_mem_cons.mpr ⟨?_, ?_⟩
    · refine not_mem_of_contains ?_
      decide +kernel
  exact List.forall_mem_nil _

set_option maxRecDepth 4000 in
theorem equivalents_longI : ∀ line ∈ equivalents, '𐐀' ∉ line.toList := by
  rw [equivalents]
  repeat
    refine List.forall_mem_cons.mpr ⟨?_, ?_⟩
    · refine not_mem_of_contains ?_
      decide +kernel
  exact List.forall_mem_nil _

set_option maxRecDepth 4000 in
theorem expansions_longI : ∀ line ∈ expansions, '𐐀' ∉ line.toList := by
  rw [expansions]
  repeat
    refine List.forall_mem_cons.mpr ⟨?_, ?_⟩
    · refine not_mem_of_contains ?_
      decide +kernel
  exact List.forall_mem_nil _

theorem compatible_longI : compatible "𐐀" = "𐐀" :=
  compatible_singleton (c := '𐐀') (by decide)
    (standsFor?_eq_none combinations_longI equivalents_longI expansions_longI)

end ProviderGen.Text
