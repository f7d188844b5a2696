import RpcClients.Command.Run
import RpcClients.Proofs.ImportClosure
import RpcClients.Proofs.SourceProblems

/-! # Refused sources

A command reads its inputs in order and then what they import. The first source that has no descriptor ends the run:
with a report and exit code 1 if its first problem is one that is reported, and without a report otherwise. -/

namespace RpcClients

open Proto Schema

namespace FileTree

variable {tree : FileTree} {dirs : List Path} {files : List FileDescriptor} {pending : List String}

/-! ## Sources that are met -/

end FileTree

/-! ## Commands -/

namespace Command

variable {tree : FileTree} {invocation : Invocation} {found : Settings} {failure : Failure}

/-- How a command ends that fails after it has logged. -/
def failed (tree : FileTree) (log : String) : Failure → Except Fault Outcome
  | .reported error => .ok { exitCode := 1, messages := log ++ errorText error.message, tree }
  | .fault fault => .error fault

theorem outcome_of_error {α : Type} {step : Logged α} {lines : List LogLine}
    (h : step.run.run [] = (.error failure, lines)) (verbose : Bool) (success : α → String → Outcome) :
    outcome verbose tree step success = failed tree (LogLine.shown verbose lines) failure := by
  unfold outcome
  rw [h]
  cases failure <;> rfl

end Command

end RpcClients
