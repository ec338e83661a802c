import IntentSpec.Datum.Shown
import IntentSpec.Text.Alphanumeric
import IntentSpec.Text.Case
import IntentSpec.Text.Character
import IntentSpec.Text.Pieces

/-!
# Masking secrets

Before an event is written, what looks like a secret in it is masked.  A value under a key that names a
secret is masked as a whole, whatever it is.  In every other text, at any depth, bearer tokens and the user
information of web addresses are masked.

Texts are searched from left to right, once for each form.  Where a secret is recognised the search goes on
behind it, so no two masked parts overlap, and a bearer token is masked before user information is looked for.
A secret is recognised by its form only, and what stands behind the place where the form ends is shown, even if
somebody would take it for a part of the secret.

A key is written as a text to see whether it names a secret, and is left as it is otherwise.  Masking fails only
where a key cannot be written.

## Main definitions

* `Log.mask` — the text that stands for a secret.
* `Log.isSensitive` — whether a key names a secret.
* `Log.bearer?`, `Log.userInfo?` — a secret at the front of a text.
* `Log.maskEach` — masking all secrets of one form.
* `Log.redactText`, `Log.redact`, `Log.redactField` — a text, a value and a field with secrets masked.
-/

namespace IntentSpec.Log

open Text

/-- The text that stands for a secret. It is no secret by its form, and its length says nothing
about what it stands for. -/
def mask : String := "***REDACTED***"

/-- What the key of a secret has in it. -/
def sensitiveTerms : List String :=
  ["secret", "token", "password", "api_key", "apikey", "authorization", "credential", "cookie"]

/-- Whether a key names a secret, in any case of its letters. A term inside a longer word is enough.
-/
def isSensitive (key : String) : Bool :=
  sensitiveTerms.any fun term => occurs term.toList (lower key.toList)

/-- The characters beyond ASCII that have an ASCII letter as their lower or upper case. -/
def letterVariants : List Nat := [0x130, 0x131, 0x17f, 0x212a]

/-- Whether the character can be part of a token. -/
def isTokenPart (c : Char) : Bool :=
  isAsciiWord c || ['.', '~', '+', '/', '-'].contains c || letterVariants.contains c.toNat

/-- The rest of a text after a word at its front in either ASCII case. -/
def dropFolded? : List Char → List Char → Option (List Char)
  | [], s => some s
  | _ :: _, [] => none
  | w :: word, c :: s => if w == foldAscii c then dropFolded? word s else none

/-- Masks a bearer token at the front of a text: the text that stands for it, and what follows it.  A token
ends with all equals signs after it. -/
def bearer? (s : List Char) : Option (List Char × List Char) := do
  let afterWord ← dropFolded? "bearer".toList s
  let token := afterWord.dropWhile isBlank
  if token.length = afterWord.length then none
  else if !token.head?.any isTokenPart then none
  else
    some (("Bearer " ++ mask).toList, (token.dropWhile isTokenPart).dropWhile (· == '='))

/-- The rest of a text after the letter s, which may be missing.  The long s counts as one. -/
def dropLetterS : List Char → List Char
  | [] => []
  | c :: s => if foldAscii c == 's' || c.toNat == 0x17f then s else c :: s

/-- Whether the character can be part of user information. -/
def isUserPart (c : Char) : Bool := !(c == '/' || c == '@' || isBlank c)

/-- Masks the user information of a web address at the front of a text: the address up to the at sign with
the mask in it, and what follows. -/
def userInfo? (s : List Char) : Option (List Char × List Char) := do
  let user ← dropWord? "://".toList (dropLetterS (← dropFolded? "http".toList s))
  match user.takeWhile isUserPart, user.dropWhile isUserPart with
  | _ :: _, '@' :: rest =>
    some (s.take (s.length - user.length) ++ mask.toList ++ ['@'], rest)
  | _, _ => none

/-- Masks every secret of one form that begins where a word may begin, from left to right.  `inWord` says
whether a word reaches up to the text, and `covered` counts the characters that belong to the last secret. -/
def maskEach (secret? : List Char → Option (List Char × List Char)) :
    Bool → Nat → List Char → List Char
  | _, _, [] => []
  | _, covered + 1, c :: s => maskEach secret? (isWordPart c) covered s
  | inWord, 0, c :: s =>
    match if inWord then none else secret? (c :: s) with
    | some (shown, rest) =>
      shown ++ maskEach secret? (isWordPart c) (s.length - rest.length) s
    | none => c :: maskEach secret? (isWordPart c) 0 s

/-- A text with bearer tokens masked, and then the user information of web addresses. The two
searches are made one after the other over the whole text. -/
def redactText (s : String) : String :=
  String.ofList (maskEach userInfo? false 0 (maskEach bearer? false 0 s.toList))

mutual

/-- A value with the secrets in it masked.  A tuple becomes a list.  Whether a value is a secret is told by its
key, for which the key is written; a key that cannot be written ends the work. -/
def redact : Datum → Except NumeralError Datum
  | .text s => return .text (redactText s)
  | .list items | .tuple items => return .list (← redactItems items)
  | .mapping entries => return .mapping (← redactEntries entries)
  | d => return d

/-- Several values with the secrets in them masked. -/
def redactItems : List Datum → Except NumeralError (List Datum)
  | [] => return []
  | item :: items => return (← redact item) :: (← redactItems items)

/-- Entries with the secrets in them masked. -/
def redactEntries : List (Datum × Datum) → Except NumeralError (List (Datum × Datum))
  | [] => return []
  | (key, value) :: entries => do
    let name ← key.plain
    let value ← (if isSensitive name then pure (.text mask) else redact value)
    return (key, value) :: (← redactEntries entries)

end

/-- A field of an event with the secrets in it masked. The name of the field is looked at like a
key. -/
def redactField (field : String × Datum) : Except NumeralError (String × Datum) := do
  let value ← (if isSensitive field.1 then pure (.text mask) else redact field.2)
  return (field.1, value)

/-- The fields of an event with the secrets in them masked. -/
def redactFields (fields : List (String × Datum)) : Except NumeralError (List (String × Datum)) :=
  fields.mapM redactField

end IntentSpec.Log
