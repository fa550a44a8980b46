/-!
# Fingerprints

The fingerprint of a message is its MD5 digest: the message is padded to whole blocks of sixteen
words, least significant byte first, and each block stirs a state of four words in 64 steps.
-/

namespace Narrative.Digest

/-- The state of four words. -/
structure State where
  /-- The first word. -/
  a : UInt32
  /-- The second word. -/
  b : UInt32
  /-- The third word. -/
  c : UInt32
  /-- The fourth word. -/
  d : UInt32
  deriving DecidableEq, Repr

/-- The state before the first block. -/
def State.start : State := ⟨0x67452301, 0xefcdab89, 0x98badcfe, 0x10325476⟩

/-- The words added in the steps: the whole parts of 2 ^ 32 times the sine of the step number. -/
def sines : Array UInt32 :=
  #[
    0xd76aa478, 0xe8c7b756, 0x242070db, 0xc1bdceee, 0xf57c0faf, 0x4787c62a,
    0xa8304613, 0xfd469501, 0x698098d8, 0x8b44f7af, 0xffff5bb1, 0x895cd7be,
    0x6b901122, 0xfd987193, 0xa679438e, 0x49b40821, 0xf61e2562, 0xc040b340,
    0x265e5a51, 0xe9b6c7aa, 0xd62f105d, 0x02441453, 0xd8a1e681, 0xe7d3fbc8,
    0x21e1cde6, 0xc33707d6, 0xf4d50d87, 0x455a14ed, 0xa9e3e905, 0xfcefa3f8,
    0x676f02d9, 0x8d2a4c8a, 0xfffa3942, 0x8771f681, 0x6d9d6122, 0xfde5380c,
    0xa4beea44, 0x4bdecfa9, 0xf6bb4b60, 0xbebfbc70, 0x289b7ec6, 0xeaa127fa,
    0xd4ef3085, 0x04881d05, 0xd9d4d039, 0xe6db99e5, 0x1fa27cf8, 0xc4ac5665,
    0xf4292244, 0x432aff97, 0xab9423a7, 0xfc93a039, 0x655b59c3, 0x8f0ccc92,
    0xffeff47d, 0x85845dd1, 0x6fa87e4f, 0xfe2ce6e0, 0xa3014314, 0x4e0811a1,
    0xf7537e82, 0xbd3af235, 0x2ad7d2bb, 0xeb86d391
  ]

/-- The number of bits a step rotates by. -/
def rotation (step : Nat) : UInt32 :=
  let amounts : List UInt32 :=
    match step / 16 with
    | 0 => [7, 12, 17, 22]
    | 1 => [5, 9, 14, 20]
    | 2 => [4, 11, 16, 23]
    | _ => [6, 10, 15, 21]
  amounts.getD (step % 4) 0

/-- The word of the block that a step adds. -/
def wordIndex (step : Nat) : Nat :=
  match step / 16 with
  | 0 => step
  | 1 => (5 * step + 1) % 16
  | 2 => (3 * step + 5) % 16
  | _ => 7 * step % 16

/-- The mixture of three words of the state in a step. -/
def mixture (step : Nat) (state : State) : UInt32 :=
  match step / 16 with
  | 0 => (state.b &&& state.c) ||| (~~~state.b &&& state.d)
  | 1 => (state.d &&& state.b) ||| (~~~state.d &&& state.c)
  | 2 => state.b ^^^ state.c ^^^ state.d
  | _ => state.c ^^^ (state.b ||| ~~~state.d)

/-- A word with its bits rotated to the left. -/
def rotateLeft (word amount : UInt32) : UInt32 :=
  (word <<< amount) ||| (word >>> (32 - amount))

/-- One step on a block. -/
def stir (block : Array UInt32) (state : State) (step : Nat) : State :=
  let sum := mixture step state + state.a + sines.getD step 0 + block.getD (wordIndex step) 0
  ⟨state.d, state.b + rotateLeft sum (rotation step), state.b, state.c⟩

/-- The state after a block. -/
def absorb (state : State) (block : Array UInt32) : State :=
  let stirred := (List.range 64).foldl (stir block) state
  ⟨state.a + stirred.a, state.b + stirred.b, state.c + stirred.c, state.d + stirred.d⟩

/-- The bytes of a number, least significant first. -/
def littleEndian (count : Nat) (value : Nat) : List UInt8 :=
  (List.range count).map fun place => UInt8.ofNat (value >>> (8 * place))

/-- The message with a one bit, zeros and its length in bits, filling whole blocks. -/
def pad (message : List UInt8) : List UInt8 :=
  let zeros := (119 - message.length % 64) % 64
  message ++ 0x80 :: List.replicate zeros 0 ++ littleEndian 8 (8 * message.length)

/-- The words of a list of bytes, least significant byte first. -/
def words : List UInt8 → List UInt32
  | first :: second :: third :: fourth :: rest =>
    (first.toUInt32 ||| (second.toUInt32 <<< 8) ||| (third.toUInt32 <<< 16)
      ||| (fourth.toUInt32 <<< 24)) :: words rest
  | _ => []

/-- A number of blocks of sixteen words. -/
def blocks : Nat → List UInt32 → List (Array UInt32)
  | 0, _ => []
  | count + 1, source => (source.take 16).toArray :: blocks count (source.drop 16)

/-- The digest of a message. -/
def md5 (message : List UInt8) : List UInt8 :=
  let source := words (pad message)
  let last := (blocks (source.length / 16) source).foldl absorb .start
  [last.a, last.b, last.c, last.d].flatMap fun word => littleEndian 4 word.toNat

/-- Bytes as pairs of hexadecimal digits. -/
def hexadecimal (bytes : List UInt8) : String :=
  String.ofList <| bytes.flatMap fun byte =>
    [Nat.digitChar (byte.toNat / 16), Nat.digitChar (byte.toNat % 16)]

/-- The fingerprint of a text in its UTF-8 form. -/
def ofText (source : String) : String := hexadecimal (md5 source.toUTF8.toList)

end Narrative.Digest
