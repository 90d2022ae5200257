/-!
# SHA-256

The secure hash of 256 bits over a sequence of bytes. A message is padded to whole blocks of
sixteen words; each block is mixed into eight chaining words in sixty-four rounds.

## Main definitions

* `Digest.Bytes32`: a digest.
* `Digest.sha256`: the digest of a sequence of bytes.
* `Digest.hex`: bytes as two lower-case hexadecimal digits each.
-/

namespace LeasePool.Digest

/-- A digest of 256 bits. -/
abbrev Bytes32 := Vector UInt8 32

/-- The eight chaining words. -/
structure Chain where
  a : UInt32
  b : UInt32
  c : UInt32
  d : UInt32
  e : UInt32
  f : UInt32
  g : UInt32
  h : UInt32

/-- Sixteen consecutive words of the message schedule. -/
abbrev Window := Vector UInt32 16

/-- The fractional parts of the square roots of the first eight primes. -/
def Chain.initial : Chain :=
  ⟨0x6a09e667, 0xbb67ae85, 0x3c6ef372, 0xa54ff53a, 0x510e527f, 0x9b05688c, 0x1f83d9ab, 0x5be0cd19⟩

/-- The fractional parts of the cube roots of the first sixty-four primes. -/
def roundConstants : List UInt32 :=
  [
    0x428a2f98, 0x71374491, 0xb5c0fbcf, 0xe9b5dba5, 0x3956c25b, 0x59f111f1, 0x923f82a4, 0xab1c5ed5,
    0xd807aa98, 0x12835b01, 0x243185be, 0x550c7dc3, 0x72be5d74, 0x80deb1fe, 0x9bdc06a7, 0xc19bf174,
    0xe49b69c1, 0xefbe4786, 0x0fc19dc6, 0x240ca1cc, 0x2de92c6f, 0x4a7484aa, 0x5cb0a9dc, 0x76f988da,
    0x983e5152, 0xa831c66d, 0xb00327c8, 0xbf597fc7, 0xc6e00bf3, 0xd5a79147, 0x06ca6351, 0x14292967,
    0x27b70a85, 0x2e1b2138, 0x4d2c6dfc, 0x53380d13, 0x650a7354, 0x766a0abb, 0x81c2c92e, 0x92722c85,
    0xa2bfe8a1, 0xa81a664b, 0xc24b8b70, 0xc76c51a3, 0xd192e819, 0xd6990624, 0xf40e3585, 0x106aa070,
    0x19a4c116, 0x1e376c08, 0x2748774c, 0x34b0bcb5, 0x391c0cb3, 0x4ed8aa4a, 0x5b9cca4f, 0x682e6ff3,
    0x748f82ee, 0x78a5636f, 0x84c87814, 0x8cc70208, 0x90befffa, 0xa4506ceb, 0xbef9a3f7, 0xc67178f2
  ]

/-- Rotates a word to the right, by at least one place and at most thirty-one. -/
def rotate (x : UInt32) (by' : UInt32) : UInt32 := (x >>> by') ||| (x <<< (32 - by'))

/-- The word that follows a window of the schedule. -/
def Window.next (w : Window) : UInt32 :=
  let s0 := rotate w[1] 7 ^^^ rotate w[1] 18 ^^^ (w[1] >>> 3)
  let s1 := rotate w[14] 17 ^^^ rotate w[14] 19 ^^^ (w[14] >>> 10)
  w[0] + s0 + w[9] + s1

/-- The window one word further on. -/
def Window.shift (w : Window) : Window :=
  Vector.ofFn fun i => if h : i.val < 15 then w[i.val + 1] else w.next

/-- One round with its constant and its word of the schedule. -/
def Chain.round (s : Chain) (constant word : UInt32) : Chain :=
  let s1 := rotate s.e 6 ^^^ rotate s.e 11 ^^^ rotate s.e 25
  -- each bit of `e` chooses between those of `f` and `g`
  let choice := (s.e &&& s.f) ^^^ (~~~s.e &&& s.g)
  let t1 := s.h + s1 + choice + constant + word
  let s0 := rotate s.a 2 ^^^ rotate s.a 13 ^^^ rotate s.a 22
  -- each bit is that of at least two of `a`, `b` and `c`
  let majority := (s.a &&& s.b) ^^^ (s.a &&& s.c) ^^^ (s.b &&& s.c)
  ⟨t1 + (s0 + majority), s.a, s.b, s.c, s.d + t1, s.e, s.f, s.g⟩

/-- Adds two sets of chaining words, word by word. -/
def Chain.add (s t : Chain) : Chain :=
  ⟨s.a + t.a, s.b + t.b, s.c + t.c, s.d + t.d, s.e + t.e, s.f + t.f, s.g + t.g, s.h + t.h⟩

/-- Mixes one block into the chaining words. -/
def Chain.absorb (s : Chain) (block : Window) : Chain :=
  -- the window slides along the schedule, one word in each round
  let step := fun ((t, w) : Chain × Window) constant => (t.round constant w[0], w.shift)
  s.add (roundConstants.foldl step (s, block)).1

/-- The `count` low bytes of a number, the most significant first. -/
def bigEndian (count n : Nat) : List UInt8 :=
  (List.range count).reverse.map fun i => UInt8.ofNat (n / Nat.pow 256 i)

@[simp] theorem length_bigEndian (count n : Nat) : (bigEndian count n).length = count := by
  simp [bigEndian]

/-- The message, a one bit, as few zeros as fill whole blocks, and the length in bits. -/
def padded (message : List UInt8) : List UInt8 :=
  -- with the one bit and the eight bytes of the length, 64 divides the whole
  message ++ 0x80 :: List.replicate ((119 - message.length % 64) % 64) 0 ++
    bigEndian 8 (message.length * 8)

/-- Padding makes whole blocks of sixty-four bytes. -/
theorem length_padded (message : List UInt8) : (padded message).length % 64 = 0 := by
  simp only [padded, List.length_append, List.length_cons, List.length_replicate,
    length_bigEndian]
  omega

/-- The word that starts at a byte position. -/
def wordAt (bytes : Array UInt8) (i : Nat) : UInt32 :=
  (bytes.getD i 0).toUInt32 <<< 24 ||| (bytes.getD (i + 1) 0).toUInt32 <<< 16 |||
    (bytes.getD (i + 2) 0).toUInt32 <<< 8 ||| (bytes.getD (i + 3) 0).toUInt32

/-- The blocks of a padded message. -/
def blocks (bytes : Array UInt8) : List Window :=
  (List.range (bytes.size / 64)).map fun j =>
    Vector.ofFn fun i => wordAt bytes (64 * j + 4 * i.val)

/-- The chaining words as bytes, the most significant byte of each word first. -/
def Chain.bytes (s : Chain) : Bytes32 :=
  let words : Vector UInt32 8 := #v[s.a, s.b, s.c, s.d, s.e, s.f, s.g, s.h]
  Vector.ofFn fun i =>
    (words[i.val / 4] >>> UInt32.ofNat (8 * (3 - i.val % 4))).toUInt8

/-- The digest of a sequence of bytes. -/
def sha256 (message : List UInt8) : Bytes32 :=
  ((blocks (padded message).toArray).foldl Chain.absorb Chain.initial).bytes

/-- The two hexadecimal digits of a byte. -/
def hexByte (b : UInt8) : List Char :=
  [Nat.digitChar (b.toNat / 16), Nat.digitChar (b.toNat % 16)]

/-- Bytes in hexadecimal. -/
def hex (bytes : List UInt8) : String := String.ofList (bytes.flatMap hexByte)

end LeasePool.Digest
