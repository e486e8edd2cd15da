/-!
# Failures

What can go wrong, as causes. `DatabaseError` is what a database, or the way to it, answers
instead of a result; `Failure` is what an operation of the library answers. The wording of a
failure is given by `message`.

Two questions about a failure decide what happens next. A *transient* one may go away when the
same statement is sent again: a conflict between transactions, or a connection that could not be
had or broke. After one that *loses the connection*, the connection cannot be used any more.
-/

namespace TrafficLens

/-- What a database answers instead of a result. -/
inductive DatabaseError where
  /-- The server refused the statement. -/
  | server (code : Option String) (message : String)
  /-- The connection broke. -/
  | broken (reason : String)
  /-- The server sent what it must not send. -/
  | protocol (reason : String)
  /-- The connection could not be secured. -/
  | security (reason : String)
  | poolTimedOut
  | poolClosed
  | rowNotFound
  | workerCrashed
  | columnNotFound (name : String)
  /-- A column holds a value that is none of the wanted type. -/
  | columnDecode (name : String)
deriving DecidableEq, Repr, Inhabited

namespace DatabaseError

/-- Two transactions could not be brought into one order. -/
def serializationFailure : String := "40001"

/-- Two transactions waited for each other. -/
def deadlockDetected : String := "40P01"

/-- A lock could not be had in time. -/
def lockNotAvailable : String := "55P03"

/-- A row with the same key is already there. -/
def uniqueViolation : String := "23505"

/-- May the same statement succeed when it is sent again? -/
def isTransient : DatabaseError → Bool
  | .server (some code) _ =>
    code == serializationFailure || code == deadlockDetected || code == lockNotAvailable
  | .poolTimedOut => true
  | .broken _ => true
  | _ => false

/-- Is a row with the same key already there? -/
def isUniqueViolation : DatabaseError → Bool
  | .server (some code) _ => code == uniqueViolation
  | _ => false

/-- Is the connection lost? -/
def losesConnection : DatabaseError → Bool
  | .broken _ => true
  | .protocol _ => true
  | .poolClosed => true
  | .security _ => true
  | _ => false

/-- The wording of a database error. -/
def message : DatabaseError → String
  | .server _ message => "error returned from database: " ++ message
  | .broken reason => "error communicating with database: " ++ reason
  | .protocol reason => "encountered unexpected or invalid data: " ++ reason
  | .security reason => "error occurred while attempting to establish a TLS connection: " ++ reason
  | .poolTimedOut => "pool timed out while waiting for an open connection"
  | .poolClosed => "attempted to acquire a connection on a closed pool"
  | .rowNotFound => "no rows returned by a query that expected to return at least one row"
  | .workerCrashed => "attempted to communicate with a crashed background worker"
  | .columnNotFound name => "no column found for name: " ++ name
  | .columnDecode name => "error occurred while decoding column \"" ++ name ++ "\""

end DatabaseError

/-- What an operation answers instead of a result. -/
inductive Failure where
  | database (error : DatabaseError)
  /-- A value is not the JSON form of what is wanted. -/
  | malformed
  /-- The settings cannot be read. -/
  | settings
  | io (reason : String)
  | http (reason : String)
  | invalidContext (reason : String)
  /-- The pattern of a class of the scanner is no pattern. -/
  | invalidPattern (className : String)
  /-- The risk of a class of the scanner is no risk. -/
  | invalidRisk (className level : String)
  /-- A rollup would delete other traces than those it has counted. -/
  | rollupMismatch (counted deleted : Int)
  /-- A run was stopped because it went through too many pages. -/
  | tooManyPages
  | other (reason : String)
deriving DecidableEq, Repr, Inhabited

namespace Failure

/-- May the same statement succeed when it is sent again? -/
def isTransient : Failure → Bool
  | .database e => e.isTransient
  | _ => false

/-- Is a row with the same key already there? -/
def isUniqueViolation : Failure → Bool
  | .database e => e.isUniqueViolation
  | _ => false

/-- Is the connection lost? -/
def losesConnection : Failure → Bool
  | .database e => e.losesConnection
  | _ => false

/-- The wording of a failure. -/
def message : Failure → String
  | .database e => "Database error: " ++ e.message
  | .malformed => "JSON error"
  | .settings => "Config error"
  | .io reason => "IO error: " ++ reason
  | .http reason => "HTTP error: " ++ reason
  | .invalidContext reason => "Invalid context: " ++ reason
  | .invalidPattern className => "Other error: Invalid scanner pattern for " ++ className
  | .invalidRisk className level =>
    "Other error: Invalid risk level for " ++ className ++ ": " ++ level
  | .rollupMismatch counted deleted =>
    "Other error: rollup counted " ++ toString counted ++ " traces but would delete " ++
      toString deleted
  | .tooManyPages => "Other error: too many pages"
  | .other reason => "Other error: " ++ reason

end Failure

end TrafficLens
