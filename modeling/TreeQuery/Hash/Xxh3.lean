/-
The 64-bit XXH3 hash of a byte string, with seed 0 and the standard secret. Short inputs
are mixed with parts of the secret by length class; inputs over 240 bytes are folded
stripe by stripe into eight lanes that are scrambled after each block and merged at the
end. All arithmetic is modulo 2^64 except the folded multiplication, which adds up the
two halves of a 128-bit product by exclusive or.
-/

namespace TreeQuery.Hash

/-- The 192 bytes of the standard secret. -/
def secret : Array UInt8 := #[
  0xb8, 0xfe, 0x6c, 0x39, 0x23, 0xa4, 0x4b, 0xbe, 0x7c, 0x01, 0x81, 0x2c, 0xf7, 0x21, 0xad, 0x1c,
  0xde, 0xd4, 0x6d, 0xe9, 0x83, 0x90, 0x97, 0xdb, 0x72, 0x40, 0xa4, 0xa4, 0xb7, 0xb3, 0x67, 0x1f,
  0xcb, 0x79, 0xe6, 0x4e, 0xcc, 0xc0, 0xe5, 0x78, 0x82, 0x5a, 0xd0, 0x7d, 0xcc, 0xff, 0x72, 0x21,
  0xb8, 0x08, 0x46, 0x74, 0xf7, 0x43, 0x24, 0x8e, 0xe0, 0x35, 0x90, 0xe6, 0x81, 0x3a, 0x26, 0x4c,
  0x3c, 0x28, 0x52, 0xbb, 0x91, 0xc3, 0x00, 0xcb, 0x88, 0xd0, 0x65, 0x8b, 0x1b, 0x53, 0x2e, 0xa3,
  0x71, 0x64, 0x48, 0x97, 0xa2, 0x0d, 0xf9, 0x4e, 0x38, 0x19, 0xef, 0x46, 0xa9, 0xde, 0xac, 0xd8,
  0xa8, 0xfa, 0x76, 0x3f, 0xe3, 0x9c, 0x34, 0x3f, 0xf9, 0xdc, 0xbb, 0xc7, 0xc7, 0x0b, 0x4f, 0x1d,
  0x8a, 0x51, 0xe0, 0x4b, 0xcd, 0xb4, 0x59, 0x31, 0xc8, 0x9f, 0x7e, 0xc9, 0xd9, 0x78, 0x73, 0x64,
  0xea, 0xc5, 0xac, 0x83, 0x34, 0xd3, 0xeb, 0xc3, 0xc5, 0x81, 0xa0, 0xff, 0xfa, 0x13, 0x63, 0xeb,
  0x17, 0x0d, 0xdd, 0x51, 0xb7, 0xf0, 0xda, 0x49, 0xd3, 0x16, 0x55, 0x26, 0x29, 0xd4, 0x68, 0x9e,
  0x2b, 0x16, 0xbe, 0x58, 0x7d, 0x47, 0xa1, 0xfc, 0x8f, 0xf8, 0xb8, 0xd1, 0x7a, 0xd0, 0x31, 0xce,
  0x45, 0xcb, 0x3a, 0x8f, 0x95, 0x16, 0x04, 0x28, 0xaf, 0xd7, 0xfb, 0xca, 0xbb, 0x4b, 0x40, 0x7e]

def prime32First : UInt64 := 0x9E3779B1
def prime32Second : UInt64 := 0x85EBCA77
def prime32Third : UInt64 := 0xC2B2AE3D
def prime64First : UInt64 := 0x9E3779B185EBCA87
def prime64Second : UInt64 := 0xC2B2AE3D27D4EB4F
def prime64Third : UInt64 := 0x165667B19E3779F9
def prime64Fourth : UInt64 := 0x85EBCA77C2B2AE63
def prime64Fifth : UInt64 := 0x27D4EB2F165667C5
def avalancheFactor : UInt64 := 0x165667919E3779F9
def mixFactor : UInt64 := 0x9FB21C651E98DF25

/-- Byte `i`, or zero past the end. -/
def byteAt (bytes : Array UInt8) (i : Nat) : UInt64 := (bytes.getD i 0).toUInt64

/-- The four bytes from `i` on, least significant first. -/
def word32 (bytes : Array UInt8) (i : Nat) : UInt64 :=
  byteAt bytes i ||| (byteAt bytes (i + 1) <<< 8) ||| (byteAt bytes (i + 2) <<< 16) |||
    (byteAt bytes (i + 3) <<< 24)

/-- The eight bytes from `i` on, least significant first. -/
def word64 (bytes : Array UInt8) (i : Nat) : UInt64 :=
  word32 bytes i ||| (word32 bytes (i + 4) <<< 32)

/-- The two halves of the 128-bit product, by exclusive or. -/
def foldMultiply (a b : UInt64) : UInt64 :=
  let product := a.toNat * b.toNat
  UInt64.ofNat product ^^^ UInt64.ofNat (product / UInt64.size)

def xorShift (x shift : UInt64) : UInt64 := x ^^^ (x >>> shift)

def avalanche (h : UInt64) : UInt64 := xorShift (xorShift h 37 * avalancheFactor) 32

def avalancheShort (h : UInt64) : UInt64 :=
  xorShift (xorShift (xorShift h 33 * prime64Second) 29 * prime64Third) 32

def rotateLeft (x shift : UInt64) : UInt64 := (x <<< shift) ||| (x >>> (64 - shift))

/-- The 32 low bits of a word. -/
def lowHalf (x : UInt64) : UInt64 := x &&& 0xffffffff

/-- The low byte of a word. -/
def lowByte (x : UInt64) : UInt64 := x &&& 0xff

/-- The four bytes of a word, most significant first. -/
def swapBytes32 (x : UInt64) : UInt64 :=
  (lowByte x <<< 24) ||| (lowByte (x >>> 8) <<< 16) ||| (lowByte (x >>> 16) <<< 8) |||
    lowByte (x >>> 24)

/-- The eight bytes of a word, most significant first. -/
def swapBytes64 (x : UInt64) : UInt64 :=
  (swapBytes32 (lowHalf x) <<< 32) ||| swapBytes32 (x >>> 32)

/-- Sixteen input bytes mixed with sixteen bytes of the secret. -/
def mixSixteen (input : Array UInt8) (i s : Nat) : UInt64 :=
  foldMultiply (word64 input i ^^^ word64 secret s) (word64 input (i + 8) ^^^ word64 secret (s + 8))

/-- Carries `start` through `n` numbered rounds. -/
def rounds {α : Type} (n : Nat) (start : α) (round : α → Nat → α) : α :=
  (List.range n).foldl round start

def hashUpTo3 (input : Array UInt8) : UInt64 :=
  let n := input.size
  let combined := (byteAt input 0 <<< 16) ||| (byteAt input (n / 2) <<< 24) |||
    byteAt input (n - 1) ||| (UInt64.ofNat n <<< 8)
  avalancheShort (combined ^^^ (word32 secret 0 ^^^ word32 secret 4))

def hashUpTo8 (input : Array UInt8) : UInt64 :=
  let n := input.size
  let keyed := (word32 input (n - 4) + (word32 input 0 <<< 32)) ^^^
    (word64 secret 8 ^^^ word64 secret 16)
  let h := (keyed ^^^ rotateLeft keyed 49 ^^^ rotateLeft keyed 24) * mixFactor
  xorShift ((h ^^^ ((h >>> 35) + UInt64.ofNat n)) * mixFactor) 28

def hashUpTo16 (input : Array UInt8) : UInt64 :=
  let n := input.size
  let low := word64 input 0 ^^^ (word64 secret 24 ^^^ word64 secret 32)
  let high := word64 input (n - 8) ^^^ (word64 secret 40 ^^^ word64 secret 48)
  avalanche (UInt64.ofNat n + swapBytes64 low + high + foldMultiply low high)

def hashUpTo128 (input : Array UInt8) : UInt64 :=
  let n := input.size
  let total := rounds ((n - 1) / 32 + 1) (UInt64.ofNat n * prime64First) fun acc i =>
    acc + mixSixteen input (16 * i) (32 * i) +
      mixSixteen input (n - 16 * (i + 1)) (32 * i + 16)
  avalanche total

def hashUpTo240 (input : Array UInt8) : UInt64 :=
  let n := input.size
  let first := rounds 8 (UInt64.ofNat n * prime64First) fun acc i =>
    acc + mixSixteen input (16 * i) (16 * i)
  let rest := rounds (n / 16 - 8) (avalanche first) fun acc i =>
    acc + mixSixteen input (16 * (i + 8)) (16 * i + 3)
  avalanche (rest + mixSixteen input (n - 16) (136 - 17))

/-- Eight accumulator lanes. -/
abbrev Lanes := Array UInt64

def lanesStart : Lanes := #[
  prime32Third, prime64First, prime64Second, prime64Third,
  prime64Fourth, prime32Second, prime64Fifth, prime32First]

def lane (lanes : Lanes) (i : Nat) : UInt64 := lanes.getD i 0

/-- Folds the 64 input bytes from `i` on into the lanes, keyed by the secret from `s` on. -/
def absorb (input : Array UInt8) (i s : Nat) (lanes : Lanes) : Lanes :=
  (Array.range 8).map fun k =>
    let other := word64 input (i + 8 * (k ^^^ 1))
    let keyed := word64 input (i + 8 * k) ^^^ word64 secret (s + 8 * k)
    lane lanes k + other + lowHalf keyed * (keyed >>> 32)

def scramble (lanes : Lanes) : Lanes :=
  (Array.range 8).map fun k =>
    (xorShift (lane lanes k) 47 ^^^ word64 secret (128 + 8 * k)) * prime32First

def mergeLanes (lanes : Lanes) (s : Nat) (start : UInt64) : UInt64 :=
  avalanche <| rounds 4 start fun acc k =>
    acc + foldMultiply (lane lanes (2 * k) ^^^ word64 secret (s + 16 * k))
      (lane lanes (2 * k + 1) ^^^ word64 secret (s + 16 * k + 8))

def hashLong (input : Array UInt8) : UInt64 :=
  let n := input.size
  let blocks := (n - 1) / 1024
  let afterBlocks := rounds blocks lanesStart fun lanes b =>
    scramble <| rounds 16 lanes fun lanes k =>
      absorb input (1024 * b + 64 * k) (8 * k) lanes
  let stripes := (n - 1 - 1024 * blocks) / 64
  let afterStripes := rounds stripes afterBlocks fun lanes k =>
    absorb input (1024 * blocks + 64 * k) (8 * k) lanes
  let lanes := absorb input (n - 64) (192 - 64 - 7) afterStripes
  mergeLanes lanes 11 (UInt64.ofNat n * prime64First)

/-- The hash of a byte string. -/
def xxh3 (input : Array UInt8) : UInt64 :=
  if input.size = 0 then avalancheShort (word64 secret 56 ^^^ word64 secret 64)
  else if input.size ≤ 3 then hashUpTo3 input
  else if input.size ≤ 8 then hashUpTo8 input
  else if input.size ≤ 16 then hashUpTo16 input
  else if input.size ≤ 128 then hashUpTo128 input
  else if input.size ≤ 240 then hashUpTo240 input
  else hashLong input

/-- The hash of a text's UTF-8 bytes. -/
def ofText (text : String) : UInt64 := xxh3 text.toUTF8.data

end TreeQuery.Hash
