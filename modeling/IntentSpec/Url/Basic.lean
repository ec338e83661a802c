import IntentSpec.Hostname.Basic
import IntentSpec.Text.Character
import IntentSpec.Text.Numeral
import IntentSpec.Text.Pieces
import IntentSpec.Text.Utf8

/-!
# Locators of resources

A locator is cut into a scheme, an authority and a path, and the authority into user information, a host
and a port.  The cuts always succeed; what is rejected afterwards is a host or a port of the wrong form,
or a path that could be taken for another part.

A host may be an address instead of a name: four decimal numbers, or eight hexadecimal ones of which a
run of zeros may be left out once.

## Main definitions

* `Address.isQuad` — four numbers below 256, written without leading zeros.
* `Address.looksLikeQuad` — four runs of digits with points between them; a host of this form has to be
  an address.
* `Address.isHextets` — the long form, with an optional zone.
* `Url` — the parts that matter here, in the form in which they are sent.
* `Url.Fault`, `Url.Fault.message` — why a text is no locator.
* `Url.settledPath` — a path without steps that lead nowhere.
* `Url.parse` — reading a locator.
* `Url.shownHost` — the host in the form in which it is shown, with encoded labels decoded.
* `Url.isAbsolute`, `Url.localPart?` — whether a locator says where to go, and what is left of it if not.
-/

namespace IntentSpec.Address

open Text

/-! ## Numeric addresses -/

/-- The number that decimal digits name. -/
def decimal (digits : List Char) : Nat := digits.foldl (fun n c => 10 * n + (c.toNat - 48)) 0

/-- Whether a text is a number below 256 without leading zeros. -/
def isOctet (s : List Char) : Bool :=
  !s.isEmpty && s.all isAsciiDigit && s.length ≤ 3 && (s == ['0'] || s.head? != some '0') &&
    decimal s < 256

/-- Whether a text is a short address. -/
def isQuad (s : List Char) : Bool :=
  let octets := splitAt '.' s
  octets.length == 4 && octets.all isOctet

/-- Whether a text is four runs of digits with points between them. -/
def looksLikeQuad (s : List Char) : Bool :=
  let runs := splitAt '.' s
  runs.length == 4 && runs.all fun run => !run.isEmpty && run.all isAsciiDigit

/-- Whether a text is at most four hexadecimal digits, and at least one. -/
def isHextet (s : List Char) : Bool :=
  !s.isEmpty && s.length ≤ 4 &&
    s.all fun c => isAsciiDigit c || ('a' ≤ c && c ≤ 'f') || ('A' ≤ c && c ≤ 'F')

/-- The parts of a long address.  A short address at the end stands for two of them. -/
def hextetParts? (s : List Char) : Option (List (List Char)) :=
  let parts := splitAt ':' s
  if parts.length < 3 then none
  else
    let last := parts.getLast?.getD []
    if last.contains '.' then
      if isQuad last then some (parts.dropLast ++ [['0'], ['0']]) else none
    else some parts

/-- The places strictly inside a list of parts at which nothing stands. -/
def gaps (parts : List (List Char)) : List Nat :=
  (parts.zipIdx.filter fun (part, i) => part.isEmpty && 0 < i && i + 1 < parts.length).map (·.2)

/-- The parts around a gap.  Nothing may stand at an end only where the gap reaches that end. -/
def aroundGap? (parts : List (List Char)) (gap : Nat) : Option (List (List Char)) :=
  let front := parts.take gap
  let back := parts.drop (gap + 1)
  let front := if front.head? == some [] then (if front.length == 1 then some [] else none) else some front
  let back := if back.getLast? == some [] then (if back.length == 1 then some [] else none) else some back
  match front, back with
  | some front, some back => if front.length + back.length < 8 then some (front ++ back) else none
  | _, _ => none

/-- Whether a text is a long address without a zone. -/
def isPlainHextets (s : List Char) : Bool :=
  match hextetParts? s with
  | none => false
  | some parts =>
    parts.length ≤ 9 &&
      match gaps parts with
      | [] => parts.length == 8 && parts.all isHextet
      | [gap] => (aroundGap? parts gap).any (·.all isHextet)
      | _ => false

/-- Whether a text is a long address.  A zone after a percent sign is not empty and holds none. -/
def isHextets (s : List Char) : Bool :=
  match cutFirst? '%' s with
  | none => isPlainHextets s
  | some (address, zone) => isPlainHextets address && !zone.isEmpty && !zone.contains '%'

end IntentSpec.Address

namespace IntentSpec

open Text

/-! ## Locators -/

/-- The parts of a locator that matter here, in the form in which they are sent. A fragment is not
sent, and it is left out. -/
structure Url where
  /-- The scheme in lower case, empty if there is none. -/
  scheme : String
  /-- The host as it is sent, empty if there is none. -/
  host : String
  /-- The path as it is sent. -/
  path : String
  /-- The query as it is sent, if there is one. -/
  query : Option String := none
deriving DecidableEq, Repr

namespace Url

/-- Why a text is no locator. -/
inductive Fault where
  | tooLong
  /-- A control character stands at a position. -/
  | control (c : Char) (position : Nat)
  /-- The host looks like a short address and is none. -/
  | shortAddress (host : String)
  /-- The host in brackets is no long address. -/
  | longAddress (host : String)
  /-- The host has characters beyond ASCII and is no name. -/
  | hostname (host : String)
  | port (text : String)
  /-- A path follows the authority without a slash. -/
  | pathAfterAuthority
  /-- A path without scheme and authority begins with two slashes. -/
  | doubleSlash
  /-- A path without scheme and authority begins with a colon. -/
  | leadingColon
deriving DecidableEq, Repr

/-- The wording of a fault. -/
def Fault.message : Fault → String
  | tooLong => "URL too long"
  | control c position =>
    "Invalid non-printable ASCII character in URL, " ++ quoted (String.singleton c) ++ " at position " ++
      toString position ++ "."
  | shortAddress host => "Invalid IPv4 address: " ++ quoted host
  | longAddress host => "Invalid IPv6 address: " ++ quoted host
  | hostname host => "Invalid IDNA hostname: " ++ quoted host
  | port text => "Invalid port: " ++ quoted text
  | pathAfterAuthority => "For absolute URLs, path must be empty or begin with '/'"
  | doubleSlash => "Relative URLs cannot have a path starting with '//'"
  | leadingColon => "Relative URLs cannot have a path starting with ':'"

/-- The greatest length of a locator. -/
def maxLength : Nat := 65536

/-- Whether a character of a locator is a control character. -/
def isControl (c : Char) : Bool := c.toNat < 0x20 || c.toNat == 0x7f

/-- Whether a character may stand in a scheme after its first letter. -/
def isSchemePart (c : Char) : Bool :=
  isAsciiLetter c || isAsciiDigit c || c == '+' || c == '.' || c == '-'

/-- The scheme at the front of a text, and what follows its colon. -/
def cutScheme (s : List Char) : List Char × List Char :=
  let run := match s with
    | c :: _ => if isAsciiLetter c then s.takeWhile isSchemePart else []
    | [] => []
  match s.drop run.length with
  | ':' :: rest => (run, rest)
  | _ => ([], s)

/-- The authority after two slashes at the front of a text, if there are two, and the rest. -/
def cutAuthority : List Char → List Char × List Char
  | '/' :: '/' :: s =>
    let part (c : Char) := c != '/' && c != '?' && c != '#'
    (s.takeWhile part, s.dropWhile part)
  | s => ([], s)

/-- The path at the front of a text, and the query that may follow it. -/
def cutPath (s : List Char) : List Char × Option (List Char) :=
  let path := s.takeWhile fun c => c != '?' && c != '#'
  match s.drop path.length with
  | '?' :: query => (path, some (query.takeWhile (· != '#')))
  | _ => (path, none)

/-- The host and the port of an authority without user information. -/
def cutHost (s : List Char) : List Char × List Char :=
  let bracketed : Option (List Char × List Char) := match s with
    | '[' :: rest => (cutLast? ']' rest).map fun (inner, rest) => ('[' :: inner ++ [']'], rest)
    | _ => none
  let (host, rest) := bracketed.getD (s.takeWhile (· != ':'), s.dropWhile (· != ':'))
  match rest with
  | ':' :: port => (host, port)
  | port => (host, port)

/-- Whether a character of a host is sent as it is. -/
def isHostPart (c : Char) : Bool :=
  isAsciiLetter c || isAsciiDigit c || "-._~!$&'()*+,;=\"`\x7b\x7d%|\\".toList.contains c

/-- Whether a character of a query is sent as it is. -/
def isQueryPart (c : Char) : Bool := ' ' < c && c < '\x7f' && !"\"#<>".toList.contains c

/-- Whether a character of a path is sent as it is. -/
def isPathPart (c : Char) : Bool := isQueryPart c && !"?`\x7b\x7d".toList.contains c

/-- A text as it is sent, with the bytes of the characters that are not kept in hexadecimal digits. -/
def sent (kept : Char → Bool) (s : List Char) : List Char :=
  s.flatMap fun c =>
    if kept c then [c]
    else
      (Utf8.encode (String.singleton c)).flatMap fun b =>
        '%' :: (hexDigits 2 b.toNat).map fun d =>
          if 'a' ≤ d && d ≤ 'f' then Char.ofNat (d.toNat - 32) else d

/-- One more step on a path.  A step up takes back the one before it, but not the root. -/
def addStep (steps : List (List Char)) (step : List Char) : List (List Char) :=
  if step = ['.'] then steps
  else if step = ['.', '.'] then (if steps = [[]] then steps else steps.dropLast)
  else steps ++ [step]

/-- A path without steps that stay or lead up. -/
def settledPath (path : List Char) : List Char :=
  ['/'].intercalate ((splitAt '/' path).foldl addStep [])

/-- The host as it is sent. -/
def sentHost (host : List Char) : Except Fault (List Char) :=
  let inner := host.drop 1 |>.dropLast
  if host.isEmpty then .ok []
  else if Address.looksLikeQuad host then
    if Address.isQuad host then .ok host else .error (.shortAddress (String.ofList host))
  else if host.head? == some '[' && 1 < host.length && host.getLast? == some ']' then
    if Address.isHextets inner then .ok inner else .error (.longAddress (String.ofList host))
  else if host.all fun c => c.toNat < 0x80 then .ok (sent isHostPart (host.map foldAscii))
  else
    match Hostname.toAscii? (Hostname.lowered host) with
    | some name => .ok name
    | none => .error (.hostname (String.ofList host))

/-- The port that is in use by default for a scheme. -/
def defaultPort? (scheme : String) : Option Int :=
  match scheme with
  | "ftp" => some 21
  | "http" | "ws" => some 80
  | "https" | "wss" => some 443
  | _ => none

/-- The port, if it is given and not the default one of the scheme as it is written. -/
def givenPort (scheme : List Char) (port : List Char) : Except Fault (Option Int) :=
  if port.isEmpty then .ok none
  else
    match readInteger (String.ofList port) with
    | .ok n => .ok (if defaultPort? (String.ofList scheme) == some n then none else some n)
    | .error _ => .error (.port (String.ofList port))

/-- Whether a path fits behind a scheme and an authority. -/
def checkPath (hasScheme hasAuthority : Bool) (path : List Char) : Except Fault Unit :=
  if hasAuthority && !path.isEmpty && path.head? != some '/' then .error .pathAfterAuthority
  else if !hasScheme && !hasAuthority && path.take 2 == ['/', '/'] then .error .doubleSlash
  else if !hasScheme && !hasAuthority && path.head? == some ':' then .error .leadingColon
  else .ok ()

/-- Reads a locator. -/
def parse (text : String) : Except Fault Url := do
  let s := text.toList
  if maxLength < s.length then throw .tooLong
  match s.zipIdx.find? fun (c, _) => isControl c with
  | some (c, position) => throw (.control c position)
  | none => pure ()
  let (scheme, rest) := cutScheme s
  let (authority, rest) := cutAuthority rest
  let (path, query) := cutPath rest
  let (user, address) := (cutLast? '@' authority).getD ([], authority)
  let (host, port) := cutHost address
  let host ← sentHost host
  let port ← givenPort scheme port
  let hasScheme := !scheme.isEmpty
  let hasAuthority := !user.isEmpty || !host.isEmpty || port.isSome
  checkPath hasScheme hasAuthority path
  let path := if hasScheme || hasAuthority then settledPath path else path
  return { scheme := String.ofList (scheme.map foldAscii), host := String.ofList host
           path := String.ofList (sent isPathPart path)
           query := query.map fun query => String.ofList (sent isQueryPart query) }

/-- The host in the form in which it is shown.  Reading a host that begins with an encoded label decodes
it, which may fail. -/
def shownHost (url : Url) : Except Hostname.Fault String :=
  if "xn--".toList.isPrefixOf url.host.toList then
    (Hostname.toUnicode url.host.toList).map String.ofList
  else .ok url.host

/-- Whether a locator says with its scheme and its host where a request goes. -/
def isAbsolute (url : Url) : Bool := url.scheme != "" && url.host != ""

/-- What a locator that does not say where a request goes is taken for, if its parts are not too long: a
path from the root and a query. -/
def localPart? (url : Url) : Option String :=
  let path := '/' :: url.path.toList.dropWhile (· == '/')
  if maxLength < path.length || url.query.any (maxLength < ·.length) then none
  else some (String.ofList path ++ (url.query.map ("?" ++ ·)).getD "")

/-- What is left of a long address in brackets that is read only as far as the first closing bracket, if
that is no address: a zone that begins with a closing bracket is lost. -/
def cutAddress? (url : Url) : Option String :=
  match cutFirst? '%' url.host.toList with
  | some (address, ']' :: _) =>
    if address.contains ':' then some (String.ofList (address ++ ['%'])) else none
  | _ => none

end Url

end IntentSpec
