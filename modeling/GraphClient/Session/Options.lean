import GraphClient.Text.Listing

/-!
# Options of a handle

The options say how the commands of a handle are sent: with which limit of time,
as queries that may write or only as queries that read, and whether the lists of
names are fetched as soon as the handle is opened.
-/

namespace GraphClient

/-- How the commands of a handle are sent. -/
structure Options where
  /-- The limit of time in milliseconds for queries that do not set their own. -/
  timeout : Option Nat
  readOnly : Bool
  warmOnOpen : Bool
deriving DecidableEq, Repr

namespace Options

/-- No limit of time, writing allowed, nothing fetched on opening. -/
def standard : Options := ⟨none, false, false⟩

/-- Queries that only read. -/
def reading : Options := { standard with readOnly := true }

/-- A limit of time for every query, and every list fetched on opening. -/
def service (timeout : Nat) : Options := ⟨some timeout, false, true⟩

def withTimeout (options : Options) (timeout : Nat) : Options :=
  { options with timeout := some timeout }

def describeFlag (flag : Bool) : List Char := (if flag then "true" else "false").toList

def describe (options : Options) : List Char :=
  let timeout :=
    match options.timeout with
    | none => "None".toList
    | some milliseconds => "Some(".toList ++ integerDigits milliseconds ++ [')']
  formListing "GraphOptions"
    [named "default_timeout_ms" timeout,
     named "read_only" (describeFlag options.readOnly),
     named "warm_cache_on_open" (describeFlag options.warmOnOpen)]

end Options

end GraphClient
