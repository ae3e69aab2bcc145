import ProviderGen.CommandLine.Report
import ProviderGen.Interpreter.Common
import ProviderGen.Proofs.Running
import ProviderGen.Shell.Runner

namespace ProviderGen

/-- The failures that are not put as a message: a home directory that is not known, a link that
leads back to itself, a number that is too large, scalars of the configuration that are refused in
other ways than for their value, a reader that breaks down, and whatever no handler knows. -/
inductive Failure.Unhandled : Failure → Prop
  | noHome : Unhandled .noHome
  | noProjectHome : Unhandled (.configuration .noHome)
  | projectLoop (path : Path) : Unhandled (.configuration (.linkLoop path))
  | hugeTimeout : Unhandled (.configuration .hugeTimeout)
  | hugeCharacter : Unhandled (.configuration (.document .hugeCharacter))
  | hugeBase : Unhandled (.configuration (.document .hugeBase))
  | emptyNumber : Unhandled (.configuration (.document .emptyNumber))
  | unknownTruth (text : String) : Unhandled (.configuration (.document (.unknownTruth text)))
  | notMoment : Unhandled (.configuration (.document .notMoment))
  | sourceLoop (path : Path) : Unhandled (.analysis (.linkLoop path))
  | hugeLimit : Unhandled (.build .hugeLimit)
  | documentBreakdown (message : String) : Unhandled (.configuration (.brokenDown message))
  | sourceBreakdown (message : String) : Unhandled (.analysis (.brokenDown message))
  | unknown (message : String) : Unhandled (.elsewhere .unknown message)
  | interrupted : Unhandled .interrupted

namespace CommandLine

open Generation

variable {failure : Failure}

namespace Blame

variable {blame other : Blame}

end Blame

/-- The log of a request can be opened: the log file, if there is to be one, and the disk on which
the run starts. -/
def Opens (disk : Disk) (request : Request) (log : Option LogFile) (started : Disk) : Prop :=
  request.logSetting.start disk = .ok (log, started)

section Runs

variable [Interpreter]

/-- The run that a request asks for. -/
def runOf (runner : Runner) (request : Request) (log : Option LogFile) (started : Disk) :
    Except Failure Generated × Session :=
  run runner (.ofString request.project) request.output (!request.skipBuild)
    { Session.start started with log := log }

/-- How a command line ends that asks for something, and what it leaves and shows. It comes to
status 0 exactly if the run succeeds, which leaves the provider written and shown; to 78 exactly if
the configuration is flawed, and nothing is changed then; to 1 exactly if the run fails otherwise in
a way that is handled; and else it breaks off. Before it comes to 78 or 1, it tells of the failure.
What is on the disk at the end is what the run has left there, and all is as it was if the log cannot
be opened. -/
structure Ends (runner : Runner) (disk : Disk) (request : Request) (report : Report) : Prop where
  succeeds : report.finish = .returned 0 ↔ ∃ log started, Opens disk request log started ∧
    ∃ generated after, runOf runner request log started = (.ok generated, after) ∧
      report.output = generatedText report.disk generated ∧
      report.errors = request.logSetting.consoleText after.records ∧
      ∃ project, Project.load started (.ofString request.project) = .ok project ∧
        Written project generated report.disk
  misconfigured : report.finish = .returned 78 ↔
    ∃ log started, Opens disk request log started ∧
      ∃ flaw, Project.load started (.ofString request.project) = .error (.flawed flaw) ∧
        report.disk = started
  fails : report.finish = .returned 1 ↔ ∃ log started, Opens disk request log started ∧
    ∃ failure after, runOf runner request log started = (.error failure, after) ∧
      (∀ flaw, failure ≠ .configuration (.flawed flaw)) ∧
      failure ≠ .configuration (.document .halfCharacter) ∧ ¬ failure.Unhandled
  breaks : ∀ failure, report.finish = .broken failure ↔
    (∃ error, request.logSetting.start disk = .error error ∧ failure = .disk error) ∨
      ∃ log started, Opens disk request log started ∧
        ∃ after, runOf runner request log started = (.error failure, after) ∧ failure.Unhandled
  leftOpen : report.finish = .leftOpen ↔ ∃ log started, Opens disk request log started ∧
    Project.load started (.ofString request.project) = .error (.document .halfCharacter)
  tells : ∀ blame : Blame, report.finish = .returned blame.status →
    ∃ log started, Opens disk request log started ∧
      ∃ failure after, runOf runner request log started = (.error failure, after) ∧
        blame? failure = some blame ∧ report.output = "" ∧
        report.errors = request.logSetting.consoleText after.records ++ blame.text failure.message
  leaves : ∀ log started, Opens disk request log started → report.finish ≠ .leftOpen →
    report.disk = (runOf runner request log started).2.disk
  keeps : ∀ error, request.logSetting.start disk = .error error → report.disk = disk

section Opened

variable {runner : Runner} {disk started : Disk} {request : Request} {log : Option LogFile}

omit [Interpreter] in
theorem Opens.unique {other : Option LogFile} {others : Disk} (h : Opens disk request log started)
    (hother : Opens disk request other others) : log = other ∧ started = others :=
  Prod.mk.inj (Except.ok.inj (h.symm.trans hother))

section Failed

variable {after : Session} (hopens : Opens disk request log started)
  (hrun : runOf runner request log started = (.error failure, after))

include hopens hrun

end Failed

end Opened

end Runs

open Interpreter.Common

end CommandLine

end ProviderGen
