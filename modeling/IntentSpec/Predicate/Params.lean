import IntentSpec.Predicate.Extract
import IntentSpec.Url.Basic

/-!
# The parameters of a check

The predicate of a check is a list of words: the capability first, then parameters.  The parameters are
checked against what the capability takes: required ones that are missing, then unknown ones, then the
values.  A parameter is rejected with a reason, which ends up in the receipt.

## Main definitions

* `Capability` — what can be checked.
* `Params.Fault`, `Params.Fault.reason` — why parameters are rejected.
* `Params.ofPredicate` — the parameters that a predicate gives.
* `Params.fault?` — what is wrong with the parameters of a capability.
* `Params.read` — both together.
-/

namespace IntentSpec

open Text

/-- What can be checked. Each capability has a list of parameters that it needs and of those that it
knows. -/
inductive Capability where
  /-- The exit status of a command. -/
  | commandExit
  | fileExists
  | httpEndpoint
deriving DecidableEq, Repr

namespace Capability

/-- All capabilities. -/
def all : List Capability := [.commandExit, .fileExists, .httpEndpoint]

/-- The name of a capability. -/
def name : Capability → String
  | commandExit => "check_command_exit"
  | fileExists => "check_file_exists"
  | httpEndpoint => "check_http_endpoint"

/-- The capability of a name. -/
def ofName? (name : String) : Option Capability := all.find? (·.name == name)

end Capability

/-- Parameters with their values, in written order and with distinct names. -/
abbrev Params := List (String × String)

namespace Params

/-- Why parameters are rejected. Faults are looked for in a fixed order, and the first one is given.
-/
inductive Fault where
  /-- The predicate is that of another capability. -/
  | capabilityMismatch (expected actual : String)
  /-- A word has no equals sign. -/
  | malformedToken (token : String)
  /-- A word has nothing in front of its equals sign. -/
  | emptyKey (token : String)
  /-- There is no capability of the name. -/
  | unsupportedCapability (name : String)
  | missingKey (key : String)
  | unknownKey (key : String)
  /-- A path does not begin at the root. -/
  | relativePath
  /-- A value is not one of those that the parameter takes. -/
  | invalidValue (key : String)
  /-- A text is no locator, or lacks a scheme or a host. -/
  | invalidUrl
  /-- A locator has a scheme that is not supported. -/
  | invalidScheme (scheme : String)
  /-- A request method is not supported. -/
  | invalidMethod (method : String)
deriving DecidableEq, Repr

/-- The reason that a receipt gives. It begins with the kind of the fault, so that programs can tell
faults apart without reading on. -/
def Fault.reason : Fault → String
  | capabilityMismatch expected actual =>
    "capability_mismatch:expected=" ++ expected ++ ",actual=" ++ actual
  | malformedToken token => "malformed_token:" ++ token
  | emptyKey token => "empty_key:" ++ token
  | unsupportedCapability name => "unsupported_capability:" ++ name
  | missingKey key => "missing_required_key:" ++ key
  | unknownKey key => "unknown_key:" ++ key
  | relativePath => "invalid_path:not_absolute"
  | invalidValue key => "invalid_value:" ++ key
  | invalidUrl => "invalid_url:parse_error"
  | invalidScheme scheme => "invalid_scheme:" ++ scheme
  | invalidMethod method => "invalid_method:" ++ method

/-- The parameters that words give; of several with one name the last counts, at the place of the
first. -/
def ofWords (done : Params) : List (List Char) → Except Fault Params
  | [] => .ok done
  | word :: rest =>
    match cutFirst? '=' word with
    | none => .error (.malformedToken (String.ofList word))
    | some (key, value) =>
      if key.isEmpty then .error (.emptyKey (String.ofList word))
      else ofWords (setValue (String.ofList key) (String.ofList value) done) rest

/-- The parameters that a predicate gives for a capability. Whether the capability knows them is not
looked at here. -/
def ofPredicate (predicate capability : String) : Except Fault Params :=
  let tokens := words predicate.toList
  let first := String.ofList (tokens.headD [])
  if first ≠ capability then .error (.capabilityMismatch capability first)
  else ofWords [] tokens.tail

/-- The parameters that a capability needs. -/
def required : Capability → List String
  | .commandExit => ["cmd", "args"]
  | .fileExists => ["path"]
  | .httpEndpoint => ["url"]

/-- The parameters that a capability knows. -/
def known : Capability → List String
  | .commandExit => ["cmd", "args", "expected_exit", "timeout_ms"]
  | .fileExists => ["path", "type", "min_size_bytes"]
  | .httpEndpoint => ["url", "method", "expected_status", "timeout_ms"]

/-- The fault of a parameter whose value is an exact integer of a certain kind, if it is given and
is none. The strict reading is used, so a value has one spelling. -/
def integerFault? (key : String) (good : Int → Bool) (params : Params) : Option Fault :=
  match value? key params with
  | none => none
  | some text => if (exactInteger? text).any good then none else some (.invalidValue key)

/-- The fault of a time limit, which is positive. -/
def timeoutFault? (params : Params) : Option Fault := integerFault? "timeout_ms" (0 < ·) params

/-- The kinds of files that can be asked for. -/
def fileKinds : List String := ["file", "directory"]

/-- The fault of the parameters of a file check. -/
def fileFault? (params : Params) : Option Fault :=
  let kind := (value? "type" params).getD ""
  if ((value? "path" params).getD "").toList.head? ≠ some '/' then some .relativePath
  else if kind ≠ "" ∧ !fileKinds.contains kind then some (.invalidValue "type")
  else integerFault? "min_size_bytes" (0 ≤ ·) params

/-- The fault of the parameters of a command check. -/
def commandFault? (params : Params) : Option Fault :=
  (integerFault? "expected_exit" (fun _ => true) params).orElse fun _ => timeoutFault? params

/-- The schemes that requests are made for. -/
def schemes : List String := ["http", "https"]

/-- The request methods in use. -/
def methods : List String := ["GET", "HEAD"]

/-- The method in upper case. -/
def upperMethod (method : String) : String := String.ofList (upper method.toList)

/-- The fault of a locator.  The host is looked at only when the scheme is supported; showing it may
fail. -/
def urlFault? (text : String) : Except Hostname.Fault (Option Fault) :=
  match Url.parse text with
  | .error _ => .ok (some .invalidUrl)
  | .ok url =>
    if url.scheme = "" then .ok (some .invalidUrl)
    else if !schemes.contains url.scheme then .ok (some (.invalidScheme url.scheme))
    else do return if (← url.shownHost) = "" then some .invalidUrl else none

/-- The fault of a request method, if one is given. -/
def methodFault? (params : Params) : Option Fault :=
  match value? "method" params with
  | some method => if methods.contains (upperMethod method) then none else some (.invalidMethod method)
  | none => none

/-- The fault of the parameters of a request check. -/
def httpFault? (params : Params) : Except Hostname.Fault (Option Fault) := do
  match ← urlFault? ((value? "url" params).getD "") with
  | some fault => return some fault
  | none =>
    return (methodFault? params).orElse fun _ =>
      (integerFault? "expected_status" (fun n => 100 ≤ n && n ≤ 599) params).orElse fun _ =>
        timeoutFault? params

/-- The fault of the values of parameters. -/
def valueFault? (capability : Capability) (params : Params) : Except Hostname.Fault (Option Fault) :=
  match capability with
  | .commandExit => .ok (commandFault? params)
  | .fileExists => .ok (fileFault? params)
  | .httpEndpoint => httpFault? params

/-- What is wrong with the parameters of a capability: a required one is missing, or one is unknown, or
a value is bad. -/
def fault? (name : String) (params : Params) : Except Hostname.Fault (Option Fault) :=
  match Capability.ofName? name with
  | none => .ok (some (.unsupportedCapability name))
  | some capability =>
    match (required capability).find? fun key => (value? key params).isNone with
    | some key => .ok (some (.missingKey key))
    | none =>
      match params.find? fun p => !(known capability).contains p.1 with
      | some (key, _) => .ok (some (.unknownKey key))
      | none => valueFault? capability params

/-- The parameters that a predicate gives for a capability, if nothing is wrong with them. The outer
failure is that of showing a host, which is no fault with a reason. -/
def read (predicate capability : String) : Except Hostname.Fault (Except Fault Params) :=
  match ofPredicate predicate capability with
  | .error fault => .ok (.error fault)
  | .ok params => do
    match ← fault? capability params with
    | some fault => return .error fault
    | none => return .ok params

end Params

end IntentSpec
