import Pressroom.Secret.Pi

/-!
The Blowfish cipher with the costly key schedule used for passwords. The eighteen round keys and
the four substitution boxes stand in one array, the keys first; a schedule overwrites it pair by
pair with the cipher's own output.
-/
namespace Pressroom

namespace Blowfish

/-- Round keys and boxes: 18 words, then four times 256. -/
abbrev Boxes := Array UInt32

/-- How many words keys and boxes have together. -/
def boxWords : Nat := 18 + 4 * 256

/-- The keys and boxes before any key: the bits of π. -/
def initial : Boxes := (Pi.words boxWords).toArray

def word (b : Boxes) (i : Nat) : UInt32 := b.getD i 0

/-- Mixes a word through the four boxes. -/
def feistel (b : Boxes) (x : UInt32) : UInt32 :=
  let s0 := word b (18 + (x >>> 24).toNat)
  let s1 := word b (274 + ((x >>> 16) &&& 0xFF).toNat)
  let s2 := word b (530 + ((x >>> 8) &&& 0xFF).toNat)
  let s3 := word b (786 + (x &&& 0xFF).toNat)
  ((s0 + s1) ^^^ s2) + s3

/-- `n` rounds from round `i` on; the halves change places after each. -/
def rounds (b : Boxes) : Nat → Nat → UInt32 → UInt32 → UInt32 × UInt32
  | 0, _, l, r => (l, r)
  | n + 1, i, l, r =>
    let l := l ^^^ word b i
    rounds b n (i + 1) (r ^^^ feistel b l) l

/-- Enciphers two words. -/
def encipher (b : Boxes) (l r : UInt32) : UInt32 × UInt32 :=
  let (l, r) := rounds b 16 0 l r
  (r ^^^ word b 17, l ^^^ word b 16)

/-- The `i`-th word of the bytes repeated without end, the first byte highest. -/
def cycleWord (bytes : Array UInt8) (i : Nat) : UInt32 :=
  let byte := fun k => (bytes.getD ((4 * i + k) % bytes.size) 0).toUInt32
  byte 0 <<< 24 ||| byte 1 <<< 16 ||| byte 2 <<< 8 ||| byte 3

/-- Adds the key to the first `n` round keys. -/
def mixKey (key : Array UInt8) : Nat → Boxes → Boxes
  | 0, b => b
  | n + 1, b => mixKey key n (b.setIfInBounds n (word b n ^^^ cycleWord key n))

/-- Overwrites `n` pairs of words from pair `i` on with the cipher's output, which starts from the
last pair with the salt added. -/
def refill (salt : Array UInt8) : Nat → Nat → UInt32 → UInt32 → Boxes → Boxes
  | 0, _, _, _, b => b
  | n + 1, i, l, r, b =>
    let (l, r) := encipher b (l ^^^ cycleWord salt (2 * i)) (r ^^^ cycleWord salt (2 * i + 1))
    refill salt n (i + 1) l r ((b.setIfInBounds (2 * i) l).setIfInBounds (2 * i + 1) r)

/-- One pass of the key schedule. -/
def expand (salt key : Array UInt8) (b : Boxes) : Boxes :=
  refill salt (boxWords / 2) 0 0 0 (mixKey key 18 b)

/-- A salt that adds nothing. -/
def noSalt : Array UInt8 := #[0]

/-- Keys and boxes after the schedule: one pass with salt and key, then `2^cost` times a pass with
the key and a pass with the salt as key. -/
def schedule (cost : Nat) (salt key : Array UInt8) : Boxes :=
  Nat.repeat (fun b => expand noSalt salt (expand noSalt key b)) (twoTo cost)
    (expand salt key initial)

/-- Enciphers a pair of words sixty-four times over. -/
def encipherMany (b : Boxes) (l r : UInt32) : UInt32 × UInt32 :=
  Nat.repeat (fun p => encipher b p.1 p.2) 64 (l, r)

end Blowfish

end Pressroom
