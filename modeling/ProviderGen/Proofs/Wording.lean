import ProviderGen.Source.Parse
import Mathlib.Data.List.TakeWhile

namespace ProviderGen.Source

/-- A token is a part of a text. A name holds only what may go on in a name. -/
structure LiesIn (text : List Char) (token : Token) : Prop where
  part : token.text.toList <:+: text
  word : token.kind = .name → ∀ c ∈ token.text.toList, Number.goesOnInName c = true

variable {text rest : List Char} {token : Token} {lexer after : Lexer}

theorem LiesIn.of_suffix (h : LiesIn rest token) (hrest : rest <:+ text) : LiesIn text token :=
  ⟨h.part.trans hrest.isInfix, h.word⟩

namespace Lexer

theorem liesIn_token_nil (lexer : Lexer) {kind : TokenKind} (hkind : kind ≠ .name) :
    LiesIn text (lexer.token kind []) :=
  ⟨by simp [token], fun h => absurd h hkind⟩

theorem liesIn_takeToken {kind : TokenKind} {length : Nat}
    (hword : kind = .name → ∀ c ∈ lexer.rest.take length, Number.goesOnInName c = true)
    (h : lexer.takeToken kind length = (token, after)) :
    LiesIn lexer.rest token ∧ after.rest <:+ lexer.rest := by
  obtain ⟨rfl, rfl⟩ := Prod.mk.inj h
  refine ⟨⟨?_, ?_⟩, List.drop_suffix _ _⟩
  · simpa [Lexer.token] using (List.take_prefix length lexer.rest).isInfix
  · simpa [Lexer.token] using hword

theorem liesIn_takeWord (h : lexer.takeWord = .ok (token, after)) :
    LiesIn lexer.rest token ∧ after.rest <:+ lexer.rest := by
  unfold takeWord at h
  simp only at h
  split at h
  · refine liesIn_takeToken ?_ (Except.ok.inj h)
    intro _ c hc
    have hword : lexer.rest.takeWhile Number.goesOnInName <+: lexer.rest := List.takeWhile_prefix _
    have htake := List.prefix_iff_eq_take.mp hword
    rw [← htake] at hc
    exact List.mem_takeWhile_imp hc
  · cases h

theorem liesIn_takeOperator (h : lexer.takeOperator = .ok (token, after)) :
    LiesIn lexer.rest token ∧ after.rest <:+ lexer.rest := by
  -- Brackets are counted before the token is taken, which changes nothing about the text.
  have htake : ∀ {lexer' : Lexer} {length : Nat},
      lexer'.takeToken .operator length = (token, after) → lexer'.rest = lexer.rest →
        LiesIn lexer.rest token ∧ after.rest <:+ lexer.rest := by
    intro lexer' length htoken hrest
    rw [← hrest]
    exact liesIn_takeToken (by simp) htoken
  simp only [takeOperator] at h
  split at h
  · cases h
  next c rest hrest =>
  split at h
  · split at h
    · exact htake (Except.ok.inj h) rfl
    · cases h
  split at h
  · split at h
    · cases h
    · split at h
      · exact htake (Except.ok.inj h) rfl
      · cases h
  · split at h
    · cases h
    · exact htake (Except.ok.inj h) rfl

theorem liesIn_takeNext (h : lexer.takeNext = .ok (token, after)) :
    LiesIn lexer.rest token ∧ after.rest <:+ lexer.rest := by
  simp only [takeNext] at h
  split at h
  · split at h
    · exact liesIn_takeToken (by simp) (Except.ok.inj h)
    · cases h
  split at h
  · cases h
  split at h
  · split at h
    · exact liesIn_takeToken (by simp) (Except.ok.inj h)
    · cases h
  split at h
  · exact liesIn_takeWord h
  · exact liesIn_takeOperator h

end Lexer

theorem suffix_readIndentation {column shortColumn fixed : Nat} {found : Indentation}
    (h : readIndentation lexer column shortColumn fixed rest = .ok found) :
    found.lexer.rest <:+ rest := by
  fun_induction readIndentation lexer column shortColumn fixed rest with
  | case1 _ _ _ _ rest ih => exact (ih h).trans (List.suffix_cons _ rest)
  | case2 _ _ _ _ rest ih => exact (ih h).trans (List.suffix_cons _ rest)
  | case3 _ _ _ _ rest ih => exact (ih h).trans (List.suffix_cons _ rest)
  | case4 => cases h
  | case5 _ _ _ _ rest _ _ ih => exact (ih h).trans (List.drop_suffix 2 (_ :: _ :: rest))
  | case6 => cases h
  | case7 =>
      obtain rfl := Except.ok.inj h
      exact List.suffix_rfl

theorem liesIn_blockTokens (text : List Char) {found : Indentation} {tokens : List Token}
    (h : blockTokens found = .ok (tokens, after)) :
    (∀ token ∈ tokens, LiesIn text token) ∧ after.rest = found.lexer.rest := by
  have hnone : ∀ kind : TokenKind, kind ≠ .name → LiesIn text (found.lexer.token kind []) :=
    fun _ => found.lexer.liesIn_token_nil
  simp only [blockTokens] at h
  split at h
  · split at h
    · obtain ⟨rfl, rfl⟩ := Prod.mk.inj (Except.ok.inj h)
      exact ⟨by simp, rfl⟩
    · cases h
  split at h
  · split at h
    · obtain ⟨rfl, rfl⟩ := Prod.mk.inj (Except.ok.inj h)
      exact ⟨by simpa using hnone .indent (by simp), rfl⟩
    · cases h
  · split at h
    · obtain ⟨rfl, rfl⟩ := Prod.mk.inj (Except.ok.inj h)
      refine ⟨?_, rfl⟩
      intro token htoken
      rw [List.eq_of_mem_replicate htoken]
      exact hnone .dedent (by simp)
    · cases h

theorem suffix_skipBlanks (lexer : Lexer) : lexer.skipBlanks.rest <:+ lexer.rest := by
  have hblanks : lexer.rest.dropWhile isLineBlank <:+ lexer.rest := List.dropWhile_suffix _
  simp only [Lexer.skipBlanks]
  split
  · exact (List.dropWhile_suffix _).trans hblanks
  · exact hblanks

theorem liesIn_run (text : List Char) {bound : Nat} {fresh : Bool} {found : List Token}
    (hfound : ∀ token ∈ found, LiesIn text token) (hrest : lexer.rest <:+ text) :
    ∀ token ∈ (Lexer.run bound fresh lexer found).tokens, LiesIn text token := by
  induction bound generalizing fresh lexer found with
  | zero => simpa [Lexer.run] using hfound
  | succ bound ih =>
      have hreverse : ∀ token ∈ found.reverse, LiesIn text token :=
        fun token htoken => hfound token (List.mem_reverse.mp htoken)
      have hadd : ∀ {token}, LiesIn text token → ∀ other ∈ token :: found, LiesIn text other :=
        fun htoken => List.forall_mem_cons.mpr ⟨htoken, hfound⟩
      cases fresh with
      | true =>
          simp only [Lexer.run]
          split
          · exact hreverse
          next indentation hindentation =>
          have hsuffix := (suffix_readIndentation hindentation).trans hrest
          split
          · next rest heq => exact ih hfound ((List.suffix_cons _ rest).trans (heq ▸ hsuffix))
          · next rest heq =>
              refine ih hfound (List.IsSuffix.trans ?_ (heq ▸ hsuffix))
              exact (List.drop_suffix _ _).trans
                ((List.dropWhile_suffix _).trans (List.suffix_cons _ rest))
          split
          · split
            · exact hreverse
            next tokens lexer htokens =>
            obtain ⟨hblock, hsame⟩ := liesIn_blockTokens text htokens
            refine ih ?_ (hsame ▸ hsuffix)
            intro token htoken
            rcases List.mem_append.mp htoken with htoken | htoken
            · exact hblock token (List.mem_reverse.mp htoken)
            · exact hfound token htoken
          · exact ih hfound hsuffix
      | false =>
          have hsuffix := (suffix_skipBlanks lexer).trans hrest
          simp only [Lexer.run]
          split
          · split
            · intro token htoken
              exact hadd (Lexer.liesIn_token_nil _ (by simp)) token (List.mem_reverse.mp htoken)
            · exact hreverse
          · next rest heq =>
              have hnext : rest <:+ text := (List.suffix_cons _ rest).trans (heq ▸ hsuffix)
              split
              · exact ih (hadd (Lexer.liesIn_token_nil _ (by simp))) hnext
              · exact ih hfound hnext
          · next rest heq =>
              have hnext : rest <:+ text :=
                (List.drop_suffix 2 (_ :: _ :: rest)).trans (heq ▸ hsuffix)
              split
              · exact hreverse
              · exact ih hfound hnext
          · exact hreverse
          split
          · exact hreverse
          next token after htaken =>
          obtain ⟨hlies, hafter⟩ := Lexer.liesIn_takeNext htaken
          exact ih (hadd (hlies.of_suffix hsuffix)) (hafter.trans hsuffix)

/-- The tokens of a text are parts of it, and names are words of it. -/
theorem liesIn_tokensFrom (line : Nat) (text : List Char) :
    ∀ token ∈ (tokensFrom line text).tokens, LiesIn text token :=
  liesIn_run text (by simp) List.suffix_rfl

section

variable {part : List Char}

theorem eq_nil_of_prefix_line {lines : List Char} (h : part <+: '\n' :: lines)
    (hpart : '\n' ∉ part) : part = [] := by
  cases part with
  | nil => rfl
  | cons c part =>
      obtain ⟨rfl, -⟩ := List.cons_prefix_cons.mp h
      simp at hpart

theorem infix_of_infix_line {lines : List Char} (h : part <:+: '\n' :: lines)
    (hpart : '\n' ∉ part) : part <:+: lines := by
  rcases List.infix_cons_iff.mp h with hfront | hinner
  · rw [eq_nil_of_prefix_line hfront hpart]
    exact List.nil_infix
  · exact hinner

theorem prefix_of_withLineFeeds (h : part <+: withLineFeeds text) (hpart : '\n' ∉ part) :
    part <+: text := by
  have hline : ∀ {part lines rest : List Char}, part <+: '\n' :: lines → '\n' ∉ part →
      part <+: rest := by
    intro part lines rest hfront hnot
    rw [eq_nil_of_prefix_line hfront hnot]
    exact List.nil_prefix
  fun_induction withLineFeeds text generalizing part with
  | case7 c rest _ _ _ _ _ ih =>
      cases part with
      | nil => exact List.nil_prefix
      | cons first part =>
          obtain ⟨rfl, hrest⟩ := List.cons_prefix_cons.mp h
          have hnot : '\n' ∉ part := fun hmem => hpart (List.mem_cons_of_mem _ hmem)
          exact List.cons_prefix_cons.mpr ⟨rfl, ih hrest hnot⟩
  | _ => exact hline h hpart

theorem infix_of_withLineFeeds (h : part <:+: withLineFeeds text) (hpart : '\n' ∉ part) :
    part <:+: text := by
  fun_induction withLineFeeds text generalizing part with
  | case5 rest _ ih =>
      have hinner := ih (infix_of_infix_line h hpart) hpart
      exact hinner.trans (List.drop_suffix 2 (_ :: _ :: rest)).isInfix
  | case6 rest _ _ _ ih =>
      exact (ih (infix_of_infix_line h hpart) hpart).trans (List.suffix_cons _ rest).isInfix
  | case7 c rest hend hreturn hpair hlone hone ih =>
      rcases List.infix_cons_iff.mp h with hfront | hinner
      · have hlines : withLineFeeds (c :: rest) = c :: withLineFeeds rest := by
          rw [withLineFeeds] <;> assumption
        exact (prefix_of_withLineFeeds (hlines ▸ hfront) hpart).isInfix
      · exact (ih hinner hpart).trans (List.suffix_cons _ rest).isInfix
  | _ => exact (infix_of_infix_line h hpart).trans List.nil_infix

theorem withLineFeeds_of_not_mem {text : List Char} (hreturn : '\r' ∉ text)
    (hlast : text.getLast? = some '\n') : withLineFeeds text = text := by
  fun_induction withLineFeeds text with
  | case1 => cases hlast
  | case2 => rfl
  | case7 c rest hfeed _ _ _ _ ih =>
      cases rest with
      | nil => exact absurd rfl (hfeed (Option.some.inj hlast))
      | cons second rest =>
          rw [List.getLast?_cons_cons] at hlast
          rw [ih (fun hmem => hreturn (List.mem_cons_of_mem c hmem)) hlast]
  | _ => exact absurd (List.mem_cons_self ..) hreturn

end

end ProviderGen.Source
