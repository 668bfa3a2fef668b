import Hashmark.Text.Quoted

/-!
# Message digests

The MD5 digest of a sequence of bytes, which names the stored result of a source and a
configuration. Only its being a fixed function with few collisions matters to this library.
-/

namespace Hashmark.Text.Digest

/-- The 64 addends of the rounds: the integer parts of 2^32 times the sines of 1 to 64. -/
def addends : List UInt32 :=
  [0xd76aa478, 0xe8c7b756, 0x242070db, 0xc1bdceee, 0xf57c0faf, 0x4787c62a, 0xa8304613, 0xfd469501,
   0x698098d8, 0x8b44f7af, 0xffff5bb1, 0x895cd7be, 0x6b901122, 0xfd987193, 0xa679438e, 0x49b40821,
   0xf61e2562, 0xc040b340, 0x265e5a51, 0xe9b6c7aa, 0xd62f105d, 0x02441453, 0xd8a1e681, 0xe7d3fbc8,
   0x21e1cde6, 0xc33707d6, 0xf4d50d87, 0x455a14ed, 0xa9e3e905, 0xfcefa3f8, 0x676f02d9, 0x8d2a4c8a,
   0xfffa3942, 0x8771f681, 0x6d9d6122, 0xfde5380c, 0xa4beea44, 0x4bdecfa9, 0xf6bb4b60, 0xbebfbc70,
   0x289b7ec6, 0xeaa127fa, 0xd4ef3085, 0x04881d05, 0xd9d4d039, 0xe6db99e5, 0x1fa27cf8, 0xc4ac5665,
   0xf4292244, 0x432aff97, 0xab9423a7, 0xfc93a039, 0x655b59c3, 0x8f0ccc92, 0xffeff47d, 0x85845dd1,
   0x6fa87e4f, 0xfe2ce6e0, 0xa3014314, 0x4e0811a1, 0xf7537e82, 0xbd3af235, 0x2ad7d2bb, 0xeb86d391]

/-- How far each round rotates: four amounts for each quarter, taken in turn. -/
def rotations : List UInt32 :=
  [[7, 12, 17, 22], [5, 9, 14, 20], [4, 11, 16, 23], [6, 10, 15, 21]].flatMap fun amounts =>
    amounts ++ amounts ++ amounts ++ amounts

/-- The state of the computation: four words. -/
structure State where
  /-- The first word. -/
  a : UInt32
  /-- The second word. -/
  b : UInt32
  /-- The third word. -/
  c : UInt32
  /-- The fourth word. -/
  d : UInt32
  deriving DecidableEq, Repr

/-- The state before the first block. -/
def State.start : State := ⟨0x67452301, 0xefcdab89, 0x98badcfe, 0x10325476⟩

/-- The word that four bytes write, the lowest byte first. -/
def word (bytes : List UInt8) : UInt32 :=
  bytes.foldr (fun b w => w <<< 8 ||| b.toUInt32) 0

/-- The four bytes of a word, the lowest first. -/
def wordBytes (w : UInt32) : List UInt8 :=
  [w.toUInt8, (w >>> 8).toUInt8, (w >>> 16).toUInt8, (w >>> 24).toUInt8]

/-- The bits of a word turned to the left by `n`, which is between 1 and 31. -/
def rotateLeft (w n : UInt32) : UInt32 :=
  w <<< n ||| w >>> (32 - n)

/-- The round numbered `i` on a block of sixteen words. -/
def round (block : Array UInt32) (s : State) (i : Nat) (addend turn : UInt32) : State :=
  let (mix, k) :=
    if i < 16 then ((s.b &&& s.c) ||| (~~~s.b &&& s.d), i)
    else if i < 32 then ((s.d &&& s.b) ||| (~~~s.d &&& s.c), (5 * i + 1) % 16)
    else if i < 48 then (s.b ^^^ s.c ^^^ s.d, (3 * i + 5) % 16)
    else (s.c ^^^ (s.b ||| ~~~s.d), 7 * i % 16)
  ⟨s.d, s.b + rotateLeft (s.a + mix + addend + block.getD k 0) turn, s.b, s.c⟩

/-- Takes a block of 64 bytes into the state. -/
def absorb (s : State) (bytes : List UInt8) : State :=
  let block := ((List.range 16).map fun i => word ((bytes.drop (4 * i)).take 4)).toArray
  let t := ((addends.zip rotations).zipIdx).foldl (fun t ((addend, turn), i) =>
    round block t i addend turn) s
  ⟨s.a + t.a, s.b + t.b, s.c + t.c, s.d + t.d⟩

/-- The message followed by a set bit, zeros, and its length in bits as eight bytes, a multiple of
64 bytes in all. -/
def pad (message : List UInt8) : List UInt8 :=
  let zeros := (119 - message.length % 64) % 64
  let bits := 8 * message.length
  message ++ 0x80 :: List.replicate zeros 0 ++
    (List.range 8).map fun i => (bits / Nat.pow 256 i % 256).toUInt8

/-- The digest of a message: sixteen bytes. -/
def digest (message : List UInt8) : List UInt8 :=
  let bytes := pad message
  let s := (List.range (bytes.length / 64)).foldl (fun s i =>
    absorb s ((bytes.drop (64 * i)).take 64)) State.start
  [s.a, s.b, s.c, s.d].flatMap wordBytes

/-- The digest of a message as 32 hexadecimal digits. -/
def hexDigest (message : List UInt8) : String :=
  String.ofList ((digest message).flatMap fun b => hexDigits 2 b.toNat)

end Hashmark.Text.Digest
