/-!
# Failures

The kinds of failure that a request to a workspace can end in.  Some kinds are special cases of
others, and a kind can be a special case of two.
-/

namespace TableReconciler

/-- The kinds of failure, the special ones after the general one they belong to. -/
inductive FailureKind where
  /-- A failure that the service reports. -/
  | service
  /-- The service does not find what is asked for. -/
  | notFound
  /-- The service does not know the resource; a special case of `notFound`. -/
  | missingResource
  /-- The service does not permit the request. -/
  | permissionDenied
  /-- The service does not understand the request. -/
  | badRequest
  /-- The service does not accept a parameter; a special case of `badRequest`. -/
  | invalidParameter
  /-- The service fails. -/
  | internalError
  /-- A failure outside the service. -/
  | runtime
  /-- A long operation ends in failure; a special case of `runtime`. -/
  | operationFailed
  /-- A wait takes too long. -/
  | timeout
  /-- A long operation takes too long; a special case of `runtime` and of `timeout`. -/
  | operationTimeout
  /-- A value is refused. -/
  | value
  /-- A failure that the local query engine reports. -/
  | engine
  /-- The query engine refuses a query; a special case of `engine`. -/
  | analysis
  /-- The query engine does not understand a query; a special case of `analysis`. -/
  | parse
  deriving DecidableEq, Repr

namespace FailureKind

/-- The name of a kind in messages. -/
def label : FailureKind → String
  | .service => "DatabricksError"
  | .notFound => "NotFound"
  | .missingResource => "ResourceDoesNotExist"
  | .permissionDenied => "PermissionDenied"
  | .badRequest => "BadRequest"
  | .invalidParameter => "InvalidParameterValue"
  | .internalError => "InternalError"
  | .runtime => "RuntimeError"
  | .operationFailed => "OperationFailed"
  | .timeout => "TimeoutError"
  | .operationTimeout => "OperationTimeout"
  | .value => "ValueError"
  | .engine => "PySparkException"
  | .analysis => "AnalysisException"
  | .parse => "ParseException"

/-- The service does not find what is asked for. -/
def isNotFound : FailureKind → Bool
  | .notFound | .missingResource => true
  | _ => false

/-- The service reports the failure. -/
def isService : FailureKind → Bool
  | .service | .notFound | .missingResource | .permissionDenied | .badRequest
  | .invalidParameter | .internalError => true
  | _ => false

/-- The failure arises outside the service. -/
def isRuntime : FailureKind → Bool
  | .runtime | .operationFailed | .operationTimeout => true
  | _ => false

/-- Something takes too long. -/
def isTimeout : FailureKind → Bool
  | .timeout | .operationTimeout => true
  | _ => false

/-- The local query engine reports the failure. -/
def isEngine : FailureKind → Bool
  | .engine | .analysis | .parse => true
  | _ => false

end FailureKind

/-- The failure of a request. -/
structure CallFailure where
  /-- The kind of failure. -/
  kind : FailureKind
  /-- What is said about it. -/
  message : String
  deriving DecidableEq, Repr

/-- A failure with the name of its kind. -/
def CallFailure.describe (failure : CallFailure) : String :=
  failure.kind.label ++ ": " ++ failure.message

end TableReconciler
