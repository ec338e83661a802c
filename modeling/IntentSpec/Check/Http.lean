import IntentSpec.Check.Command
import IntentSpec.Text.Pieces

/-!
# Checking a server

A request check sends one request and compares the status of the answer.  The locator of the request is
read again for the answer, so that it has to say where the request went.  Redirections are not followed,
but the location that they name is read.  A refused connection and another status fail; whatever leaves
open how the server is leaves the check unknown.

What went wrong with a request is told from all failures that led to it, since the client wraps the failure
of the operating system in one of its own, and sometimes in several.  They are looked through in a fixed
order: a refused connection decides the check, and after it come the name, the time, the network and the
secure connection.  For names and secure connections the words of the messages are looked at as well, since
the trouble shows itself in no other way on some systems.

A failure that no request is known to have is passed on.  It ends the whole verification, and no outcome is
made up for it.

## Main definitions

* `Check.transportOutcome` — the outcome for a failed request, read off all failures that led to it.
* `Check.httpOutcome` — the outcome for an answer.
* `Check.http` — the check.
-/

namespace IntentSpec.Check

open Text Params

/-- Words of messages that show that a name could not be resolved. -/
def resolutionHints : List String :=
  ["name or service not known", "nodename nor servname", "getaddrinfo failed",
   "temporary failure in name resolution", "no address associated with hostname"]

/-- The error numbers of failures of the operating system, without zeros. -/
def errorNumbers (failures : List Failure) : List Int :=
  failures.filterMap fun f => if f.kind.isSystem then f.code.filter (· != 0) else none

/-- The messages of failures, joined by blanks. -/
def messages (failures : List Failure) : List Char :=
  (" ".intercalate (failures.map (·.text))).toList

/-- The outcome that all failures that led to a failed request amount to. -/
def transportOutcome (failures : List Failure) : CheckOutcome :=
  let numbers := errorNumbers failures
  let message := messages failures
  let has (kind : FailureKind) := failures.any (·.kind == kind)
  if has .connectionRefused || numbers.contains Errno.connectionRefused then
    .failed "connection_refused"
  else if has .nameResolution || resolutionHints.any fun hint => occurs hint.toList (lower message) then
    .unknown "dns_failure"
  else if numbers.contains Errno.timedOut then .unknown "timeout_exceeded"
  else
    match numbers.find? fun n => n == Errno.networkUnreachable || n == Errno.hostUnreachable with
    | some n => .unknown ("network_error:" ++ Errno.name (some n))
    | none =>
      if has .secureConnection || occurs "SSL".toList message || occurs "TLS".toList message then
        .unknown "tls_error"
      else .unknown ("network_error:" ++ Errno.name numbers.head?)

/-- The outcome for a failed request.  Failures that no request is known to have are passed on. -/
def requestFailure (g : FailureGraph) : Except Trouble CheckOutcome :=
  match g with
  | [] => .error (.failed g)
  | f :: _ =>
    match f.kind with
    | .timeout | .requestTimeout _ => .ok (.unknown "timeout_exceeded")
    | .unsupportedProtocol | .invalidLocator => .ok (.unknown (Params.Fault.reason .invalidUrl))
    | .transport _ => .ok (transportOutcome g.reachable)
    | _ => .error (.failed g)

/-- The statuses of redirections. -/
def redirections : List Int := [301, 302, 303, 307, 308]

/-- The failure of an answer whose location is no locator. -/
def badLocation (fault : Url.Fault) : FailureGraph :=
  [{ kind := .transport "RemoteProtocolError"
     text := "Invalid URL in location header: " ++ fault.message ++ "."
     context := some 1, contextHidden := true },
   { kind := .invalidLocator, text := fault.message }]

/-- Reads the location of a redirection, which may go wrong in several ways. -/
def readLocation (location : String) : Except (Except Trouble CheckOutcome) Unit :=
  match Url.parse location with
  | .error fault => .error (requestFailure (badLocation fault))
  | .ok url =>
    if url.scheme != "" && url.host == "" && url.path != "" && !url.path.startsWith "/" then
      .error (.ok (.unknown (Params.Fault.reason .invalidUrl)))
    else
      match if url.scheme == "" then url.cutAddress? else none, url.shownHost with
      | some text, _ => .error (.error (.noAddress text))
      | none, .error fault => .error (.error (.hostname fault))
      | none, .ok _ => .ok ()

/-- The outcome for a status. -/
def statusOutcome (expected actual : Int) : CheckOutcome :=
  let evidence := [("actual_status", Json.int actual)]
  if actual ≠ expected then
    .failed ("status_mismatch:expected=" ++ toString expected ++ ",actual=" ++ toString actual)
      (some evidence)
  else .passed evidence

/-- The outcome for the answer to a request, given what is wrong with the locator when it is read again. -/
def httpOutcome (expected : Int) (trouble : Option Trouble) :
    HttpAnswer → Except Trouble CheckOutcome
  | .failed failures => requestFailure failures
  | .response status location =>
    if location.any fun location => location.toList.any fun c => 0x80 ≤ c.toNat then .error .notAscii
    else
      match trouble, if redirections.contains status then location else none with
      | some trouble, _ => .error trouble
      | none, none => .ok (statusOutcome expected status)
      | none, some location =>
        match readLocation location with
        | .error outcome => outcome
        | .ok () => .ok (statusOutcome expected status)

/-- The request that parameters describe: its method, the status that is expected of the answer, its time
limit and its locator. -/
def httpQuestion (context : CheckContext) (params : Params) :
    Except Trouble (String × Int × Binary64 × String) := do
  let method := upperMethod (((value? "method" params).filter (· != "")).getD "GET")
  let expected ← integer? "expected_status" params
  let timeout ← integer? "timeout_ms" params
  let limit ← seconds (timeout.getD context.httpTimeout)
  return (method, expected.getD 200, limit, ← need "url" params)

/-- Sends a request, given what is wrong with its locator when it is read again for the answer. -/
def send (expected : Int) (trouble : Option Trouble) (method locator : String) (limit : Binary64) :
    Inquiry CheckOutcome := do
  let answer ← Inquiry.ask (.request method locator limit)
  httpOutcome expected trouble answer

/-- Checks a server. -/
def http (context : CheckContext) (params : Params) : Inquiry CheckOutcome := do
  let (method, expected, limit, text) ← httpQuestion context params
  match Url.parse text with
  | .error _ => return .unknown (Params.Fault.reason .invalidUrl)
  | .ok url =>
    if url.isAbsolute then
      match url.shownHost with
      | .error fault => throw (.hostname fault)
      | .ok _ => send expected (url.cutAddress?.map .noAddress) method text limit
    else
      match url.localPart? with
      | none => return .unknown (Params.Fault.reason .invalidUrl)
      | some rest => send expected (some (.unknownLocator rest)) method text limit

end IntentSpec.Check
