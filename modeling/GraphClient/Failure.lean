import GraphClient.Schema.Kind

/-!
# Failures

A `Malformed` reply does not have the form that its reader asks for.  A
`Failure` is any reason for which a request has no answer.  The wording of both
stands in `message` alone.
-/

namespace GraphClient

/-- What is wrong with a reply. -/
inductive Malformed where
  | unrecognizedType (tag : Int)
  | unrecognizedColumn (kind : Int)
  /-- Another form of reply stands in this place. -/
  | unexpectedShape (expected context : String)
  /-- An array of fixed length has another length. -/
  | arity (expected found : Nat) (context : String)
  | invalidUtf8 (context : String)
  /-- A text or an integer is not a number of the kind asked for. -/
  | invalidNumber (text context : String)
  | invalidVectorEntry (text : String)
  /-- The numbers of nodes and edges do not make a path. -/
  | pathShape (nodes edges : Nat)
deriving DecidableEq, Repr

def Malformed.message : Malformed → String
  | .unrecognizedType tag => s!"unrecognized response type {tag}"
  | .unrecognizedColumn kind => s!"unrecognized column type {kind}"
  | .unexpectedShape expected context => s!"expected {expected} for {context}"
  | .arity expected found context =>
      s!"expected {expected} elements for {context}, got {found}"
  | .invalidUtf8 context => s!"invalid utf-8 in {context}"
  | .invalidNumber text context => "invalid number '" ++ text ++ "' in " ++ context
  | .invalidVectorEntry text => "invalid float value in vector data: '" ++ text ++ "'"
  | .pathShape nodes edges => s!"path has {nodes} nodes and {edges} edges"

/-- Why a request has no answer. -/
inductive Failure where
  | malformed (reason : Malformed)
  | evaluation (text : String)
  /-- The server's list of names ends before this index. -/
  | unresolved (kind : Kind) (index known : Nat)
  | transport (text : String)
  | outOfBounds (index length : Nat)
  | serialization (text : String)
  | invalidArgument (text : String)
  /-- Fetching a list needs a name of the very list that is being fetched. -/
  | blocked (kind : Kind)
deriving DecidableEq, Repr

namespace Failure

def message : Failure → String
  | .malformed reason => "protocol corruption: " ++ reason.message
  | .evaluation text => text
  | .unresolved kind index known =>
      kind.text ++ s!" index {index} unresolved after refresh ({known} known)"
  | .transport text => "transport: " ++ text
  | .outOfBounds index length => s!"index {index} out of bounds (len {length})"
  | .serialization text => "serialization error: " ++ text
  | .invalidArgument text => "invalid argument: " ++ text
  | .blocked kind => kind.text ++ " list is being fetched"

def isMalformed : Failure → Bool
  | .malformed _ => true
  | _ => false

def isEvaluation : Failure → Bool
  | .evaluation _ => true
  | _ => false

end Failure

end GraphClient
