/-!
# Texts as bytes

Reading bytes as UTF-8.  The lenient reading replaces each maximal ill-formed part by the replacement
character, where a part is a prefix of some well-formed sequence, or one byte that begins none.

## Main definitions

* `Text.Utf8.encode` — the bytes of a text.
* `Text.Utf8.decode?` — the text of well-formed bytes.
* `Text.Utf8.decodeLenient` — a text for any bytes.
* `Text.Utf8.dropMark` — bytes without a leading byte-order mark.
-/

namespace IntentSpec.Text.Utf8

/-- The first byte of a sequence of several bytes: how many follow, the bits it contributes, and the
closed range of the byte after it.  The narrower ranges keep out overlong forms, surrogates and code
points beyond the last. -/
def lead? (b : Nat) : Option (Nat × Nat × Nat × Nat) :=
  if 0xc2 ≤ b && b ≤ 0xdf then some (1, b - 0xc0, 0x80, 0xbf)
  else if b == 0xe0 then some (2, 0, 0xa0, 0xbf)
  else if b == 0xed then some (2, 0xd, 0x80, 0x9f)
  else if 0xe1 ≤ b && b ≤ 0xef then some (2, b - 0xe0, 0x80, 0xbf)
  else if b == 0xf0 then some (3, 0, 0x90, 0xbf)
  else if 0xf1 ≤ b && b ≤ 0xf3 then some (3, b - 0xf0, 0x80, 0xbf)
  else if b == 0xf4 then some (3, 4, 0x80, 0x8f)
  else none

/-- The rest of a sequence: `remaining` bytes that follow, the next one in the given range.  Answers
the character when all are there, and how many bytes were taken either way. -/
def follow : Nat → Nat → Nat → Nat → List UInt8 → Option Char × Nat
  | 0, value, _, _, _ => (some (Char.ofNat value), 0)
  | _ + 1, _, _, _, [] => (none, 0)
  | remaining + 1, value, low, high, b :: bytes =>
    if low ≤ b.toNat && b.toNat ≤ high then
      let (c, taken) := follow remaining (value * 64 + (b.toNat - 0x80)) 0x80 0xbf bytes
      (c, taken + 1)
    else (none, 0)

/-- The first character of the bytes `b :: bytes`, if well formed, and how many of `bytes` it takes
beyond `b`. -/
def first (b : UInt8) (bytes : List UInt8) : Option Char × Nat :=
  if b.toNat < 0x80 then (some (Char.ofNat b.toNat), 0)
  else
    match lead? b.toNat with
    | some (count, value, low, high) => follow count value low high bytes
    | none => (none, 0)

/-- The characters of bytes, `none` for each maximal ill-formed part.  `skip` bytes have been read. -/
def characters : Nat → List UInt8 → List (Option Char)
  | _, [] => []
  | skip + 1, _ :: bytes => characters skip bytes
  | 0, b :: bytes =>
    let (c, taken) := first b bytes
    c :: characters taken bytes

/-- The text of bytes if they are well formed. -/
def decode? (bytes : List UInt8) : Option (List Char) := (characters 0 bytes).mapM id

/-- The text of bytes, with a replacement character for each maximal ill-formed part. This is how
the output of a command is read, which need not be text. -/
def decodeLenient (bytes : List UInt8) : List Char :=
  (characters 0 bytes).map (·.getD '\ufffd')

/-- The bytes of a text. -/
def encode (text : String) : List UInt8 := text.toUTF8.toList

/-- Bytes without a leading byte-order mark. -/
def dropMark : List UInt8 → List UInt8
  | 0xef :: 0xbb :: 0xbf :: bytes => bytes
  | bytes => bytes

end IntentSpec.Text.Utf8
