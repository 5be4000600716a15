/-!
The digest of 256 bits that SHA-2 defines, over lists of bytes, and the signature of a message with
a secret that HMAC makes of it.
-/

namespace Promptuary.Digest

/-- A message as bytes. -/
abbrev Bytes := List UInt8

/-! ### Constants -/

/-- The first 32 bits of the fractional parts of the cube roots of the first 64 primes. -/
def roundConstants : Array UInt32 := #[
  0x428a2f98, 0x71374491, 0xb5c0fbcf, 0xe9b5dba5, 0x3956c25b, 0x59f111f1,
  0x923f82a4, 0xab1c5ed5, 0xd807aa98, 0x12835b01, 0x243185be, 0x550c7dc3,
  0x72be5d74, 0x80deb1fe, 0x9bdc06a7, 0xc19bf174, 0xe49b69c1, 0xefbe4786,
  0x0fc19dc6, 0x240ca1cc, 0x2de92c6f, 0x4a7484aa, 0x5cb0a9dc, 0x76f988da,
  0x983e5152, 0xa831c66d, 0xb00327c8, 0xbf597fc7, 0xc6e00bf3, 0xd5a79147,
  0x06ca6351, 0x14292967, 0x27b70a85, 0x2e1b2138, 0x4d2c6dfc, 0x53380d13,
  0x650a7354, 0x766a0abb, 0x81c2c92e, 0x92722c85, 0xa2bfe8a1, 0xa81a664b,
  0xc24b8b70, 0xc76c51a3, 0xd192e819, 0xd6990624, 0xf40e3585, 0x106aa070,
  0x19a4c116, 0x1e376c08, 0x2748774c, 0x34b0bcb5, 0x391c0cb3, 0x4ed8aa4a,
  0x5b9cca4f, 0x682e6ff3, 0x748f82ee, 0x78a5636f, 0x84c87814, 0x8cc70208,
  0x90befffa, 0xa4506ceb, 0xbef9a3f7, 0xc67178f2]

/-- The eight words that a digest is made of while it is computed. -/
structure Words where
  a : UInt32
  b : UInt32
  c : UInt32
  d : UInt32
  e : UInt32
  f : UInt32
  g : UInt32
  h : UInt32
deriving DecidableEq, Repr

/-- The first 32 bits of the fractional parts of the square roots of the first eight primes. -/
def Words.initial : Words :=
  ⟨0x6a09e667, 0xbb67ae85, 0x3c6ef372, 0xa54ff53a,
    0x510e527f, 0x9b05688c, 0x1f83d9ab, 0x5be0cd19⟩

/-! ### Words and bytes -/

/-- A word turned to the right. -/
def rotate (x : UInt32) (n : UInt32) : UInt32 := (x >>> n) ||| (x <<< (32 - n))

/-- A word from bytes, the most significant first. -/
def wordOf (bytes : Bytes) : UInt32 := bytes.foldl (fun w b => (w <<< 8) ||| b.toUInt32) 0

/-- The four bytes of a word, the most significant first. -/
def bytesOf (w : UInt32) : Bytes :=
  [(w >>> 24).toUInt8, (w >>> 16).toUInt8, (w >>> 8).toUInt8, w.toUInt8]

/-- The first pieces of a size of a list. -/
def firstPieces {α : Type} (size : Nat) : (count : Nat) → List α → List (List α)
  | 0, _ => []
  | count + 1, xs => xs.take size :: firstPieces size count (xs.drop size)

/-- A list cut into pieces of a positive size, the last one possibly shorter. -/
def pieces {α : Type} (size : Nat) (xs : List α) : List (List α) :=
  firstPieces size ((xs.length + size - 1) / size) xs

/-! ### Digest -/

/-- A message with a single one bit, zeros, and its length in bits, up to a multiple of 64 bytes. -/
def pad (message : Bytes) : Bytes :=
  let zeros := (64 - (message.length + 9) % 64) % 64
  let bits := message.length * 8
  message ++ (0x80 : UInt8) :: List.replicate zeros 0 ++
    ((List.range 8).reverse.map fun i => UInt8.ofNat (bits >>> (8 * i)))

/-- The next word of a schedule, whose words are given the latest first. -/
def nextWord (latest : Array UInt32) : UInt32 :=
  let n := latest.size
  let before (i : Nat) : UInt32 := latest[n - i]?.getD 0
  let x := before 15
  let y := before 2
  let s0 := rotate x 7 ^^^ rotate x 18 ^^^ (x >>> 3)
  let s1 := rotate y 17 ^^^ rotate y 19 ^^^ (y >>> 10)
  before 16 + s0 + before 7 + s1

/-- The 64 words that a block of 64 bytes is stretched to. -/
def schedule (block : Bytes) : Array UInt32 :=
  let start := ((pieces 4 block).map wordOf).toArray
  (List.range 48).foldl (fun words _ => words.push (nextWord words)) start

/-- One round with a constant and a word of the schedule. -/
def round (s : Words) (constant word : UInt32) : Words :=
  let s1 := rotate s.e 6 ^^^ rotate s.e 11 ^^^ rotate s.e 25
  let choice := (s.e &&& s.f) ^^^ ((~~~ s.e) &&& s.g)
  let t1 := s.h + s1 + choice + constant + word
  let s0 := rotate s.a 2 ^^^ rotate s.a 13 ^^^ rotate s.a 22
  let majority := (s.a &&& s.b) ^^^ (s.a &&& s.c) ^^^ (s.b &&& s.c)
  ⟨t1 + (s0 + majority), s.a, s.b, s.c, s.d + t1, s.e, s.f, s.g⟩

/-- The words after one more block. -/
def compress (s : Words) (block : Bytes) : Words :=
  let t := (roundConstants.zip (schedule block)).foldl (fun t (k, w) => round t k w) s
  ⟨s.a + t.a, s.b + t.b, s.c + t.c, s.d + t.d, s.e + t.e, s.f + t.f, s.g + t.g, s.h + t.h⟩

/-- The bytes of the words. -/
def Words.bytes (s : Words) : Bytes :=
  [s.a, s.b, s.c, s.d, s.e, s.f, s.g, s.h].flatMap bytesOf

/-- The digest of a message. -/
def sha256 (message : Bytes) : Bytes :=
  ((pieces 64 (pad message)).foldl compress .initial).bytes

theorem length_sha256 (message : Bytes) : (sha256 message).length = 32 := rfl

/-! ### Signatures -/

/-- A secret as a block of 64 bytes; a longer one is replaced by its digest. -/
def keyBlock (secret : Bytes) : Bytes :=
  let short := if 64 < secret.length then sha256 secret else secret
  short ++ List.replicate (64 - short.length) 0

/-- The signature of a message with a secret. -/
def hmac (secret message : Bytes) : Bytes :=
  let block := keyBlock secret
  sha256 (block.map (· ^^^ 0x5c) ++ sha256 (block.map (· ^^^ 0x36) ++ message))

end Promptuary.Digest
