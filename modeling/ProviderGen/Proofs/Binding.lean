import ProviderGen.Proofs.Marking
import Mathlib.Data.List.Basic
import Mathlib.Data.List.Induction

namespace ProviderGen.Detection

open Source

/-- The body of the last class statement of a name. -/
def LastClass (statements : List Statement) (name : String) (body : List Statement) : Prop :=
  ∃ before after, statements = before ++ .classDef name body :: after ∧
    ∀ other, Statement.classDef name other ∉ after

/-- Whether a statement is a class statement of a name. -/
def isClassOf (name : String) : Statement → Bool
  | .classDef other _ => other == name
  | _ => false

/-- The place of the first class statement of a name. -/
def firstPlace (statements : List Statement) (name : String) : Nat :=
  statements.findIdx (isClassOf name)

section Rebinding

variable {name : String} {body : List Statement} {known : List (String × List Statement)}

theorem map_fst_rebind :
    (rebind name body known).map Prod.fst =
      if name ∈ known.map Prod.fst then known.map Prod.fst else known.map Prod.fst ++ [name] := by
  induction known with
  | nil => rfl
  | cons entry rest ih =>
      obtain ⟨other, old⟩ := entry
      by_cases hname : other = name
      · simp [rebind, hname]
      · simp only [rebind, if_neg hname, List.map_cons, List.mem_cons, Ne.symm hname, false_or, ih]
        split <;> rfl

theorem mem_rebind (hnodup : (known.map Prod.fst).Nodup) {entry : String × List Statement} :
    entry ∈ rebind name body known ↔ entry = (name, body) ∨ entry.1 ≠ name ∧ entry ∈ known := by
  induction known with
  | nil => simp [rebind]
  | cons first rest ih =>
      obtain ⟨other, old⟩ := first
      obtain ⟨hfresh, hrest⟩ := List.nodup_cons.mp hnodup
      by_cases hname : other = name
      · subst hname
        have hne : ∀ entry ∈ rest, entry.1 ≠ other := by
          rintro entry hentry rfl
          exact hfresh (List.mem_map.mpr ⟨entry, hentry, rfl⟩)
        simp only [rebind, if_true, List.mem_cons]
        constructor
        · rintro (rfl | hmem)
          · exact .inl rfl
          · exact .inr ⟨hne entry hmem, .inr hmem⟩
        · rintro (rfl | ⟨hother, rfl | hmem⟩)
          · exact .inl rfl
          · exact absurd rfl hother
          · exact .inr hmem
      · simp only [rebind, if_neg hname, List.mem_cons, ih hrest]
        constructor
        · rintro (rfl | rfl | ⟨hother, hmem⟩)
          · exact .inr ⟨hname, .inl rfl⟩
          · exact .inl rfl
          · exact .inr ⟨hother, .inr hmem⟩
        · rintro (rfl | ⟨hother, rfl | hmem⟩)
          · exact .inr (.inl rfl)
          · exact .inl rfl
          · exact .inr (.inr ⟨hother, hmem⟩)

end Rebinding

section LastClass

variable {before : List Statement} {statement : Statement} {name : String} {body : List Statement}

theorem isClassOf_iff : isClassOf name statement = true ↔ ∃ body, statement = .classDef name body := by
  cases statement <;> simp [isClassOf]

theorem LastClass.mem (h : LastClass before name body) : .classDef name body ∈ before := by
  obtain ⟨front, back, rfl, -⟩ := h
  simp

theorem lastClass_concat :
    LastClass (before ++ [statement]) name body ↔
      statement = .classDef name body ∨
        isClassOf name statement = false ∧ LastClass before name body := by
  rw [Bool.eq_false_iff, Ne, isClassOf_iff]
  constructor
  · rintro ⟨front, back, hsplit, hback⟩
    rcases List.eq_nil_or_concat' back with rfl | ⟨back, last, rfl⟩
    · exact .inl (by simpa using (List.append_inj' hsplit rfl).2)
    · rw [← List.cons_append, ← List.append_assoc] at hsplit
      obtain ⟨rfl, hlast⟩ := List.append_inj' hsplit rfl
      obtain rfl : statement = last := by simpa using hlast
      refine .inr ⟨?_, front, back, rfl, ?_⟩
      · rintro ⟨other, rfl⟩
        exact hback other (by simp)
      · intro other hmem
        exact hback other (by simp [hmem])
  · rintro (rfl | ⟨hother, front, back, rfl, hback⟩)
    · exact ⟨before, [], rfl, by simp⟩
    · refine ⟨front, back ++ [statement], by simp, ?_⟩
      intro other hmem
      rcases List.mem_append.mp hmem with hmem | hmem
      · exact hback other hmem
      · exact hother ⟨other, (List.mem_singleton.mp hmem).symm⟩

theorem exists_lastClass (h : .classDef name body ∈ before) : ∃ last, LastClass before name last := by
  induction before using List.reverseRecOn with
  | nil => cases h
  | append_singleton front statement ih =>
      by_cases hclass : isClassOf name statement = true
      · obtain ⟨last, hlast⟩ := isClassOf_iff.mp hclass
        exact ⟨last, lastClass_concat.mpr (.inl hlast)⟩
      · have hmem : .classDef name body ∈ front := by
          rcases List.mem_append.mp h with hmem | hmem
          · exact hmem
          · exact absurd (isClassOf_iff.mpr ⟨body, (List.mem_singleton.mp hmem).symm⟩) hclass
        obtain ⟨last, hlast⟩ := ih hmem
        exact ⟨last, lastClass_concat.mpr (.inr ⟨by simpa using hclass, hlast⟩)⟩

theorem LastClass.unique {other : List Statement} (h : LastClass before name body)
    (hother : LastClass before name other) : body = other := by
  induction before using List.reverseRecOn with
  | nil => cases h.mem
  | append_singleton front statement ih =>
      rcases lastClass_concat.mp h with rfl | ⟨hclass, h⟩
      · rcases lastClass_concat.mp hother with heq | ⟨hclass, -⟩
        · exact (Statement.classDef.inj heq).2
        · simp [isClassOf] at hclass
      · rcases lastClass_concat.mp hother with rfl | ⟨-, hother⟩
        · simp [isClassOf] at hclass
        · exact ih h hother

theorem firstPlace_lt (h : .classDef name body ∈ before) :
    firstPlace before name < before.length :=
  List.findIdx_lt_length_of_exists ⟨_, h, isClassOf_iff.mpr ⟨body, rfl⟩⟩

theorem firstPlace_concat_of_mem (h : .classDef name body ∈ before) :
    firstPlace (before ++ [statement]) name = firstPlace before name := by
  have hlt : before.findIdx (isClassOf name) < before.length := firstPlace_lt h
  rw [firstPlace, List.findIdx_append, if_pos hlt, firstPlace]

theorem firstPlace_concat_of_not_mem (h : ∀ other, Statement.classDef name other ∉ before) :
    before.length ≤ firstPlace (before ++ [statement]) name := by
  have hnone : before.findIdx (isClassOf name) = before.length := by
    rw [List.findIdx_eq_length]
    intro statement hmem
    rw [Bool.eq_false_iff, Ne, isClassOf_iff]
    rintro ⟨body, rfl⟩
    exact h body hmem
  rw [firstPlace, List.findIdx_append, hnone, if_neg (Nat.lt_irrefl _)]
  exact Nat.le_add_left _ _

end LastClass

/-- What is known of the classes among some statements: the public ones with their last bodies, in
the order of their first statements. -/
structure Binds (statements : List Statement) (known : List (String × List Statement)) : Prop where
  ordered : (known.map Prod.fst).Pairwise fun first second =>
    firstPlace statements first < firstPlace statements second
  mem_iff : ∀ name body, (name, body) ∈ known ↔ Public name ∧ LastClass statements name body

namespace Binds

variable {before : List Statement} {known : List (String × List Statement)} {name : String}
  {body : List Statement} {statement : Statement}

theorem nodup (h : Binds before known) : (known.map Prod.fst).Nodup :=
  h.ordered.imp fun hless heq => absurd (heq ▸ hless) (Nat.lt_irrefl _)

theorem exists_classDef (h : Binds before known) (hname : name ∈ known.map Prod.fst) :
    ∃ body, .classDef name body ∈ before := by
  obtain ⟨⟨_, body⟩, hmem, rfl⟩ := List.mem_map.mp hname
  exact ⟨body, ((h.mem_iff _ _).mp hmem).2.mem⟩

theorem ordered_concat (h : Binds before known) (statement : Statement) :
    (known.map Prod.fst).Pairwise fun first second =>
      firstPlace (before ++ [statement]) first < firstPlace (before ++ [statement]) second := by
  refine h.ordered.imp_of_mem ?_
  intro first second hfirst hsecond hless
  obtain ⟨_, hfirst⟩ := h.exists_classDef hfirst
  obtain ⟨_, hsecond⟩ := h.exists_classDef hsecond
  rwa [firstPlace_concat_of_mem hfirst, firstPlace_concat_of_mem hsecond]

theorem skip (h : Binds before known)
    (hskip : ∀ name body, statement = .classDef name body → ¬ Public name) :
    Binds (before ++ [statement]) known := by
  refine ⟨h.ordered_concat statement, ?_⟩
  intro name body
  rw [h.mem_iff, lastClass_concat]
  constructor
  · rintro ⟨hpublic, hlast⟩
    refine ⟨hpublic, .inr ⟨?_, hlast⟩⟩
    rw [Bool.eq_false_iff, Ne, isClassOf_iff]
    rintro ⟨other, heq⟩
    exact hskip name other heq hpublic
  · rintro ⟨hpublic, heq | ⟨-, hlast⟩⟩
    · exact absurd hpublic (hskip name body heq)
    · exact ⟨hpublic, hlast⟩

theorem bind (h : Binds before known) (hpublic : Public name) :
    Binds (before ++ [.classDef name body]) (rebind name body known) := by
  constructor
  · rw [map_fst_rebind]
    split
    · exact h.ordered_concat _
    next hfresh =>
      refine List.pairwise_append.mpr ⟨h.ordered_concat _, List.pairwise_singleton _ _, ?_⟩
      intro other hother _ hname
      obtain rfl := List.mem_singleton.mp hname
      obtain ⟨_, hother⟩ := h.exists_classDef hother
      rw [firstPlace_concat_of_mem hother]
      refine Nat.lt_of_lt_of_le (firstPlace_lt hother) (firstPlace_concat_of_not_mem ?_)
      intro old hold
      obtain ⟨last, hlast⟩ := exists_lastClass hold
      exact hfresh (List.mem_map_of_mem ((h.mem_iff _ last).mpr ⟨hpublic, hlast⟩))
  · intro other old
    rw [mem_rebind h.nodup, h.mem_iff, lastClass_concat]
    by_cases hother : other = name
    · subst hother
      simp [isClassOf, hpublic, eq_comm]
    · have hne : Ne name other := Ne.symm hother
      simp [isClassOf, hother, hne]

theorem classesFrom (h : Binds before known) (rest : List Statement) :
    Binds (before ++ rest) (Detection.classesFrom known rest) := by
  induction rest generalizing before known with
  | nil => simpa [Detection.classesFrom] using h
  | cons statement rest ih =>
      have hsplit : before ++ statement :: rest = before ++ [statement] ++ rest := by simp
      rw [hsplit]
      cases statement with
      | classDef name body =>
          rw [Detection.classesFrom]
          split
          next hpublic => exact ih (h.bind (isPublic_iff.mp hpublic))
          next hhidden =>
            refine ih (h.skip ?_)
            rintro _ _ heq
            obtain ⟨rfl, -⟩ := Statement.classDef.inj heq
            rwa [← isPublic_iff]
      | functionDef name decorators => exact ih (h.skip fun _ _ heq => by cases heq)
      | asyncFunctionDef name => exact ih (h.skip fun _ _ heq => by cases heq)
      | other => exact ih (h.skip fun _ _ heq => by cases heq)

end Binds

theorem binds_classes (outline : Outline) : Binds outline.statements (classes outline) := by
  have hnil : Binds [] [] := by
    refine ⟨List.Pairwise.nil, ?_⟩
    simp [LastClass]
  exact hnil.classesFrom outline.statements

end ProviderGen.Detection
