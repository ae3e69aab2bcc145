import ProviderGen.Interpreter.Common
import ProviderGen.Proofs.Phases

namespace ProviderGen

/-- The status that a command ended with, if it came to that. -/
def Ending.status? : Ending → Option Int
  | .exited status => some status
  | _ => none

/-- The ends of a command that are reported as errors of the build. -/
inductive Ending.Reported (name : String) : Ending → BuildError → Prop
  | exited {status : Int} (hstatus : status ≠ 0) : Reported name (.exited status) (.exited status)
  | timedOut {limit : Seconds} (hlimit : limit.isHuge = false) :
      Reported name (.timedOut limit) (.timedOut limit)
  | notFound {error : DiskError} (hfault : error.fault = .notFound) :
      Reported name (.refused error) (.notFound name)

/-- The ends of a command that a build has no answer to: a refusal for any other reason, a limit
that is too large to be told, and whatever else is thrown. They fail in their own way. -/
inductive Ending.Unanswered : Ending → Failure → Prop
  | refused {error : DiskError} (hfault : error.fault ≠ .notFound) :
      Unanswered (.refused error) (.build (.refused error))
  | hugeLimit {limit : Seconds} (hlimit : limit.isHuge = true) :
      Unanswered (.timedOut limit) (.build .hugeLimit)
  | threw (thrown : Thrown) (message : String) :
      Unanswered (.threw thrown message) (.elsewhere thrown message)
  | interrupted : Unanswered .interrupted .interrupted

namespace Ending

variable {ending : Ending} {name : String} {error : BuildError} {failure : Failure}

theorem Reported.status?_eq (h : ending.Reported name error) : error.status? = ending.status? := by
  cases h <;> rfl

theorem Reported.judge_eq (h : ending.Reported name error) :
    ending.judge name = .error (.build (.failed error)) := by
  cases h with
  | exited hstatus => simp [judge, hstatus]
  | timedOut hlimit => simp [judge, hlimit]
  | notFound hfault => simp [judge, hfault]

theorem Unanswered.judge_eq (h : ending.Unanswered failure) :
    ending.judge name = .error failure := by
  cases h with
  | refused hfault => simp [judge, hfault]
  | hugeLimit hlimit => simp [judge, hlimit]
  | threw thrown message => rfl
  | interrupted => rfl

theorem reported_or_unanswered (h : ending ≠ .exited 0) (name : String) :
    (∃ error, ending.Reported name error) ∨ ∃ failure, ending.Unanswered failure := by
  cases ending with
  | exited status =>
      have hstatus : status ≠ 0 := by
        rintro rfl
        exact h rfl
      exact .inl ⟨_, .exited hstatus⟩
  | timedOut limit =>
      cases hlimit : limit.isHuge with
      | true => exact .inr ⟨_, .hugeLimit hlimit⟩
      | false => exact .inl ⟨_, .timedOut hlimit⟩
  | refused error =>
      by_cases hfault : error.fault = .notFound
      · exact .inl ⟨_, .notFound hfault⟩
      · exact .inr ⟨_, .refused hfault⟩
  | threw thrown message => exact .inr ⟨_, .threw thrown message⟩
  | interrupted => exact .inr ⟨_, .interrupted⟩

theorem judge_eq_error_iff : ending.judge name = .error failure ↔
    (∃ error, failure = .build (.failed error) ∧ ending.Reported name error) ∨
      ending.Unanswered failure := by
  constructor
  · intro h
    have hending : ending ≠ .exited 0 := by
      intro hgood
      rw [judge_eq_ok_iff.mpr hgood] at h
      cases h
    rcases reported_or_unanswered hending name with ⟨error, hreported⟩ | ⟨other, hunanswered⟩
    · rw [hreported.judge_eq] at h
      exact .inl ⟨error, (Except.error.inj h).symm, hreported⟩
    · rw [hunanswered.judge_eq] at h
      exact .inr (Except.error.inj h ▸ hunanswered)
  · rintro (⟨error, rfl, hreported⟩ | hunanswered)
    · exact hreported.judge_eq
    · exact hunanswered.judge_eq

end Ending

namespace Generation

open Step

variable {runner : Runner} {logger name : String} {call : Call} {arguments : List String}

section Runs

variable [Interpreter]

/-- What a build by a command comes to, for every runner and every way in which the command can end.
It returns exactly if the command ended with status zero. Otherwise the end of the command is
reported with an error of the build, which carries the status if there is one, or the build has no
answer to it. The command is run once, and its lines are logged in any case. -/
theorem build_outcome (runner : Runner) (logger : String) (h : call.command = name :: arguments)
    (session : Session) (hlog : session.log = none) :
    let outcome := (runner session.disk call).outcome
    let after := build runner logger call session
    (after.1 = .ok () ↔ outcome.ending = .exited 0) ∧
    (∀ failure, after.1 = .error failure ↔
      (∃ error, failure = .build (.failed error) ∧ outcome.ending.Reported name error ∧
        error.status? = outcome.ending.status?) ∨ outcome.ending.Unanswered failure) ∧
    after.2.records = session.records ++
      ⟨logger, ⟨.debug, "Running build command: " ++ " ".intercalate call.command⟩⟩ ::
        outcome.lines.map (fun line => ⟨logger, ⟨.info, line⟩⟩) ∧
    after.2.calls = session.calls ++ [call] := by
  intro outcome after
  have hafter := build_eq runner logger h hlog
  have hresult : after.1 = outcome.ending.judge name := congrArg Prod.fst hafter
  refine ⟨?_, ?_, ?_, ?_⟩
  · rw [hresult, Ending.judge_eq_ok_iff]
  · intro failure
    rw [hresult, Ending.judge_eq_error_iff]
    constructor
    · rintro (⟨error, rfl, hreported⟩ | hunanswered)
      · exact .inl ⟨error, rfl, hreported, hreported.status?_eq⟩
      · exact .inr hunanswered
    · rintro (⟨error, rfl, hreported, -⟩ | hunanswered)
      · exact .inl ⟨error, rfl, hreported⟩
      · exact .inr hunanswered
  · exact congrArg (·.2.records) hafter
  · exact congrArg (·.2.calls) hafter

end Runs

open Interpreter.Common

/-- A runner that writes a line and may not run any command. -/
def deniedRunner : Runner := fun disk call =>
  .telling (.refused ⟨.denied, call.command.headD "", none⟩) ["looking for the tool"] (.nothing disk)

def toolCall : Call := ⟨["tool"], ⟨.root, []⟩, none⟩

/-- A session on a disk without any file. -/
def emptySession : Session := .start ⟨.directory [], [], "/"⟩

theorem build_outcome_deniedRunner :
    toolCall.command = "tool" :: [] ∧ emptySession.log = none ∧
      ∃ failure, (build deniedRunner "build" toolCall emptySession).1 = .error failure ∧
        (deniedRunner emptySession.disk toolCall).outcome.ending.Unanswered failure := by
  have hcommand : toolCall.command = "tool" :: [] := rfl
  have hunanswered : (deniedRunner emptySession.disk toolCall).outcome.ending.Unanswered
      (.build (.refused ⟨.denied, "tool", none⟩)) :=
    .refused (by decide)
  exact ⟨hcommand, rfl, _, ((build_outcome deniedRunner "build" hcommand emptySession rfl).2.1
    _).mpr (.inr hunanswered), hunanswered⟩

/-- A command that cannot be started makes a failure that is no error of the build. -/
theorem not_forall_build_failed :
    ¬ ∀ (runner : Runner) (logger : String) (call : Call) (session : Session) (failure : Failure),
      call.command ≠ [] → (build runner logger call session).1 = .error failure →
        ∃ error, failure = .build (.failed error) := by
  intro h
  obtain ⟨error, herror⟩ := h deniedRunner "build" toolCall emptySession
    (.build (.refused ⟨.denied, "tool", none⟩)) (by decide) rfl
  cases herror

end Generation

end ProviderGen
