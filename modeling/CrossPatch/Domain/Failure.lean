import CrossPatch.Library.Attempt

/-!
# Exceptions

The exception classes that the modelled code raises or catches, with their
place in the class hierarchy, and raised exceptions as values.
-/

namespace CrossPatch.Domain.Failure

inductive ErrorClass where
  | baseException
  | cancelledError
  | keyboardInterrupt
  | systemExit
  | exception
  | valueError
  | unicodeEncodeError
  | unicodeDecodeError
  | jsonDecodeError
  | validationError
  | typeError
  | runtimeError
  | notImplementedError
  | recursionError
  | lookupError
  | keyError
  | arithmeticError
  | decimalOverflow
  | overflowError
  | eofError
  | osError
  | fileExistsError
  | fileNotFoundError
  | notADirectoryError
  | isADirectoryError
  | permissionError
  | liveTrialDenied
  | liveTrialBudgetExceeded
  | liveTrialRateLimited
  | timeoutError
  | assertionError
  | badZipFile
  | zlibError
  | lzmaError
  | invalidSignature
  | httpError
  | httpException
  | integrityError
  | canonicalizationError
  | invalidTransition
  | eventChainCorrupted
  | unknownExecutionPlan
  | warrantError
  | duplicateKey
  | nonCanonicalWarrant
  | warrantIntegrityError
  | pathPolicyViolation
  | patchFormatViolation
  | tamperRejected
  | policyRejected
  | warrantDecisionConflict
  | bundledScenarioBindingError
  | archiveRejected
  | artifactError
  | unsafeArtifactPath
  | artifactIntegrityError
  | runnerServicePolicyViolation
  | sidecarPolicyViolation
  | unsafeRepositorySnapshot
  | candidateContextViolation
  | supervisorPolicyViolation
  | orchestrationFailure
  | duplicateRetry
  | escalationExhausted
  deriving DecidableEq, Repr

def ErrorClass.parent : ErrorClass → Option ErrorClass
  | baseException => none
  | cancelledError => some baseException
  | keyboardInterrupt => some baseException
  | systemExit => some baseException
  | exception => some baseException
  | valueError => some exception
  | unicodeEncodeError => some valueError
  | unicodeDecodeError => some valueError
  | jsonDecodeError => some valueError
  | validationError => some valueError
  | typeError => some exception
  | runtimeError => some exception
  | notImplementedError => some runtimeError
  | recursionError => some runtimeError
  | lookupError => some exception
  | keyError => some lookupError
  | arithmeticError => some exception
  | decimalOverflow => some arithmeticError
  | overflowError => some arithmeticError
  | eofError => some exception
  | osError => some exception
  | fileExistsError => some osError
  | fileNotFoundError => some osError
  | notADirectoryError => some osError
  | isADirectoryError => some osError
  | permissionError => some osError
  | liveTrialDenied => some permissionError
  | liveTrialBudgetExceeded => some liveTrialDenied
  | liveTrialRateLimited => some liveTrialDenied
  | timeoutError => some osError
  | assertionError => some exception
  | badZipFile => some exception
  | zlibError => some exception
  | lzmaError => some exception
  | invalidSignature => some exception
  | httpError => some exception
  | httpException => some exception
  | integrityError => some exception
  | canonicalizationError => some valueError
  | invalidTransition => some valueError
  | eventChainCorrupted => some runtimeError
  | unknownExecutionPlan => some lookupError
  | warrantError => some valueError
  | duplicateKey => some warrantError
  | nonCanonicalWarrant => some warrantError
  | warrantIntegrityError => some warrantError
  | pathPolicyViolation => some valueError
  | patchFormatViolation => some pathPolicyViolation
  | tamperRejected => some valueError
  | policyRejected => some valueError
  | warrantDecisionConflict => some runtimeError
  | bundledScenarioBindingError => some valueError
  | archiveRejected => some valueError
  | artifactError => some runtimeError
  | unsafeArtifactPath => some artifactError
  | artifactIntegrityError => some artifactError
  | runnerServicePolicyViolation => some valueError
  | sidecarPolicyViolation => some valueError
  | unsafeRepositorySnapshot => some valueError
  | candidateContextViolation => some valueError
  | supervisorPolicyViolation => some valueError
  | orchestrationFailure => some runtimeError
  | duplicateRetry => some runtimeError
  | escalationExhausted => some runtimeError

/-- Walk up the hierarchy; no class is more than five levels below the root. -/
def ErrorClass.climbs (target : ErrorClass) : Nat → ErrorClass → Bool
  | 0, current => current == target
  | levels + 1, current =>
      current == target ||
        match current.parent with
        | none => false
        | some above => climbs target levels above

def ErrorClass.isA (current target : ErrorClass) : Bool := target.climbs 5 current

structure Raised where
  cls : ErrorClass
  message : String
  deriving DecidableEq

def Raised.isA (raised : Raised) (target : ErrorClass) : Bool := raised.cls.isA target

abbrev Attempt := Except Raised

def raise {α : Type} (cls : ErrorClass) (message : String) : Attempt α := .error ⟨cls, message⟩

end CrossPatch.Domain.Failure
