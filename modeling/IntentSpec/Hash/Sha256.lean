import IntentSpec.Number.Power
import IntentSpec.Text.Character
import IntentSpec.Text.Printable
import IntentSpec.Text.Utf8

/-!
# SHA-256

The hash of bytes that identifies a specification.  The bytes are padded to whole blocks, and each block
is mixed into a state of eight words by one round for each constant.

The hash is computed and not assumed, so the names of receipts are those that other programs give to the same
specification.  Of its strength nothing is said: two specifications with one hash would share a receipt, and
the statements about stores are made for hashes and not for specifications.

A text has the form of a hash if it has sixty-four digits or small letters up to f.  Capital letters are not
accepted, as one hash would have several names otherwise.

## Main definitions

* `Sha256.hash` — the eight words of a hash.
* `Sha256.hex` — the hash in hexadecimal digits.
* `Sha256.isHex` — whether a text has the form of a hash.
-/

namespace IntentSpec.Sha256

open Text

/-- The constants of the rounds: the first bits of the fractions of the cube roots of primes. -/
def constants : List UInt32 :=
  [0x428a2f98, 0x71374491, 0xb5c0fbcf, 0xe9b5dba5, 0x3956c25b, 0x59f111f1, 0x923f82a4, 0xab1c5ed5,
   0xd807aa98, 0x12835b01, 0x243185be, 0x550c7dc3, 0x72be5d74, 0x80deb1fe, 0x9bdc06a7, 0xc19bf174,
   0xe49b69c1, 0xefbe4786, 0x0fc19dc6, 0x240ca1cc, 0x2de92c6f, 0x4a7484aa, 0x5cb0a9dc, 0x76f988da,
   0x983e5152, 0xa831c66d, 0xb00327c8, 0xbf597fc7, 0xc6e00bf3, 0xd5a79147, 0x06ca6351, 0x14292967,
   0x27b70a85, 0x2e1b2138, 0x4d2c6dfc, 0x53380d13, 0x650a7354, 0x766a0abb, 0x81c2c92e, 0x92722c85,
   0xa2bfe8a1, 0xa81a664b, 0xc24b8b70, 0xc76c51a3, 0xd192e819, 0xd6990624, 0xf40e3585, 0x106aa070,
   0x19a4c116, 0x1e376c08, 0x2748774c, 0x34b0bcb5, 0x391c0cb3, 0x4ed8aa4a, 0x5b9cca4f, 0x682e6ff3,
   0x748f82ee, 0x78a5636f, 0x84c87814, 0x8cc70208, 0x90befffa, 0xa4506ceb, 0xbef9a3f7, 0xc67178f2]

/-- The state at the start: the first bits of the fractions of the square roots of primes. -/
def start : List UInt32 :=
  [0x6a09e667, 0xbb67ae85, 0x3c6ef372, 0xa54ff53a, 0x510e527f, 0x9b05688c, 0x1f83d9ab, 0x5be0cd19]

/-- A word turned to the right. -/
def turn (x n : UInt32) : UInt32 := (x >>> n) ||| (x <<< (32 - n))

/-- Mixes a word of the message for a later one. -/
def small0 (x : UInt32) : UInt32 := turn x 7 ^^^ turn x 18 ^^^ (x >>> 3)

/-- Mixes a word of the message for a later one. -/
def small1 (x : UInt32) : UInt32 := turn x 17 ^^^ turn x 19 ^^^ (x >>> 10)

/-- Mixes a word of the state. -/
def big0 (x : UInt32) : UInt32 := turn x 2 ^^^ turn x 13 ^^^ turn x 22

/-- Mixes a word of the state. -/
def big1 (x : UInt32) : UInt32 := turn x 6 ^^^ turn x 11 ^^^ turn x 25

/-- The word that follows sixteen words of the message. -/
def nextWord (w : List UInt32) : UInt32 :=
  small1 (w.getD 14 0) + w.getD 9 0 + small0 (w.getD 1 0) + w.getD 0 0

/-- One round with a constant and a word of the message. -/
def round (k w : UInt32) : List UInt32 → List UInt32
  | [a, b, c, d, e, f, g, h] =>
    let chosen := (e &&& f) ^^^ (~~~e &&& g)
    let majority := (a &&& b) ^^^ (a &&& c) ^^^ (b &&& c)
    let t := h + big1 e + chosen + k + w
    [t + big0 a + majority, a, b, c, d + t, e, f, g]
  | state => state

/-- The rounds for constants, given the next sixteen words of the message. -/
def rounds : List UInt32 → List UInt32 → List UInt32 → List UInt32
  | [], _, state => state
  | k :: ks, w, state => rounds ks (w.tail ++ [nextWord w]) (round k (w.headD 0) state)

/-- The state after a block. -/
def mix (state block : List UInt32) : List UInt32 :=
  List.zipWith (· + ·) state (rounds constants block state)

/-- The words of bytes. -/
def words : List UInt8 → List UInt32
  | a :: b :: c :: d :: rest =>
    (a.toUInt32 <<< 24 ||| b.toUInt32 <<< 16 ||| c.toUInt32 <<< 8 ||| d.toUInt32) :: words rest
  | _ => []

/-- The eight bytes of a number. -/
def lengthBytes (n : Nat) : List UInt8 :=
  (List.range 8).map fun i => (n / twoTo (8 * (7 - i))).toUInt8

/-- Bytes with a mark and their length after them, so that whole blocks come out. -/
def padded (b : List UInt8) : List UInt8 :=
  b ++ [0x80] ++ List.replicate ((119 - b.length % 64) % 64) 0 ++ lengthBytes (8 * b.length)

/-- The state after a number of blocks. -/
def blocks : Nat → List UInt32 → List UInt32 → List UInt32
  | 0, _, state => state
  | n + 1, ws, state => blocks n (ws.drop 16) (mix state (ws.take 16))

/-- The eight words of the hash of bytes. -/
def hash (b : List UInt8) : List UInt32 :=
  let ws := words (padded b)
  blocks (ws.length / 16) ws start

/-- The hash of bytes in hexadecimal digits. -/
def hex (b : List UInt8) : String := String.ofList ((hash b).flatMap fun w => hexDigits 8 w.toNat)

/-- Whether a character is a lower-case hexadecimal digit. -/
def isHexDigit (c : Char) : Bool := isAsciiDigit c || ('a' ≤ c && c ≤ 'f')

/-- Whether a text has the form of a hash in hexadecimal digits. -/
def isHex (text : String) : Bool := text.length == 64 && text.toList.all isHexDigit

end IntentSpec.Sha256
