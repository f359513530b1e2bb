/-
The sixty-four bit XXH3 hash of a byte sequence under a seed.  The function has one
form for each range of lengths: up to sixteen bytes are mixed as one or two words,
up to two hundred and forty in pairs of words, and longer inputs run through eight
accumulators, sixty-four bytes at a time.
-/

namespace CatalogQuery.Xxh3

/-- Bytes that can be read at any place; past the end they read as zero. -/
abbrev Bytes := Array UInt8

/-- The number whose bytes from `place` on are given from the lowest up. -/
def readNat (bytes : Bytes) (place count : Nat) : Nat :=
  (List.range count).foldr (fun i n => n * 256 + (bytes[place + i]?.getD 0).toNat) 0

/-- The word of four bytes at a place. -/
def read32 (bytes : Bytes) (place : Nat) : UInt64 :=
  UInt64.ofNat (readNat bytes place 4)

/-- The word of eight bytes at a place. -/
def read64 (bytes : Bytes) (place : Nat) : UInt64 :=
  UInt64.ofNat (readNat bytes place 8)

def bytesOf (w : UInt64) : List UInt8 :=
  (List.range 8).map fun i => (w >>> UInt64.ofNat (8 * i)).toUInt8

/-- The fixed bytes that the input is mixed with. -/
def secret : Bytes := #[
  0xb8, 0xfe, 0x6c, 0x39, 0x23, 0xa4, 0x4b, 0xbe, 0x7c, 0x01, 0x81, 0x2c, 0xf7, 0x21, 0xad, 0x1c,
  0xde, 0xd4, 0x6d, 0xe9, 0x83, 0x90, 0x97, 0xdb, 0x72, 0x40, 0xa4, 0xa4, 0xb7, 0xb3, 0x67, 0x1f,
  0xcb, 0x79, 0xe6, 0x4e, 0xcc, 0xc0, 0xe5, 0x78, 0x82, 0x5a, 0xd0, 0x7d, 0xcc, 0xff, 0x72, 0x21,
  0xb8, 0x08, 0x46, 0x74, 0xf7, 0x43, 0x24, 0x8e, 0xe0, 0x35, 0x90, 0xe6, 0x81, 0x3a, 0x26, 0x4c,
  0x3c, 0x28, 0x52, 0xbb, 0x91, 0xc3, 0x00, 0xcb, 0x88, 0xd0, 0x65, 0x8b, 0x1b, 0x53, 0x2e, 0xa3,
  0x71, 0x64, 0x48, 0x97, 0xa2, 0x0d, 0xf9, 0x4e, 0x38, 0x19, 0xef, 0x46, 0xa9, 0xde, 0xac, 0xd8,
  0xa8, 0xfa, 0x76, 0x3f, 0xe3, 0x9c, 0x34, 0x3f, 0xf9, 0xdc, 0xbb, 0xc7, 0xc7, 0x0b, 0x4f, 0x1d,
  0x8a, 0x51, 0xe0, 0x4b, 0xcd, 0xb4, 0x59, 0x31, 0xc8, 0x9f, 0x7e, 0xc9, 0xd9, 0x78, 0x73, 0x64,
  0xea, 0xc5, 0xac, 0x83, 0x34, 0xd3, 0xeb, 0xc3, 0xc5, 0x81, 0xa0, 0xff, 0xfa, 0x13, 0x63, 0xeb,
  0x17, 0x0d, 0xdd, 0x51, 0xb7, 0xf0, 0xda, 0x49, 0xd3, 0x16, 0x55, 0x26, 0x29, 0xd4, 0x68, 0x9e,
  0x2b, 0x16, 0xbe, 0x58, 0x7d, 0x47, 0xa1, 0xfc, 0x8f, 0xf8, 0xb8, 0xd1, 0x7a, 0xd0, 0x31, 0xce,
  0x45, 0xcb, 0x3a, 0x8f, 0x95, 0x16, 0x04, 0x28, 0xaf, 0xd7, 0xfb, 0xca, 0xbb, 0x4b, 0x40, 0x7e]

/-- The odd constants of the hash, of sixty-four and of thirty-two bits. -/
def prime1 : UInt64 := 0x9E3779B185EBCA87
def prime2 : UInt64 := 0xC2B2AE3D27D4EB4F
def prime3 : UInt64 := 0x165667B19E3779F9
def prime4 : UInt64 := 0x85EBCA77C2B2AE63
def prime5 : UInt64 := 0x27D4EB2F165667C5
def small1 : UInt64 := 0x9E3779B1
def small2 : UInt64 := 0x85EBCA77
def small3 : UInt64 := 0xC2B2AE3D

/-- The word with its bits turned to the left. -/
def rotate (w : UInt64) (n : UInt64) : UInt64 :=
  (w <<< n) ||| (w >>> (64 - n))

def swapBytes (w : UInt64) : UInt64 :=
  UInt64.ofNat ((bytesOf w).foldl (fun n b => n * 256 + b.toNat) 0)

/-- The lower half of the product of two words combined with the upper half. -/
def foldProduct (a b : UInt64) : UInt64 :=
  let p := a.toNat * b.toNat
  UInt64.ofNat p ^^^ UInt64.ofNat (p >>> 64)

/-- The last mixing step of inputs up to three bytes. -/
def finishShort (h : UInt64) : UInt64 :=
  let h := (h ^^^ (h >>> 33)) * prime2
  let h := (h ^^^ (h >>> 29)) * prime3
  h ^^^ (h >>> 32)

/-- The last mixing step of longer inputs. -/
def finish (h : UInt64) : UInt64 :=
  let h := (h ^^^ (h >>> 37)) * 0x165667919E3779F9
  h ^^^ (h >>> 32)

def hashEmpty (seed : UInt64) : UInt64 :=
  finishShort (seed ^^^ (read64 secret 56 ^^^ read64 secret 64))

def hash1to3 (input : Bytes) (seed : UInt64) : UInt64 :=
  let n := input.size
  let byte (i : Nat) : UInt64 := UInt64.ofNat (readNat input i 1)
  let combined := (byte 0 <<< 16) ||| (byte (n / 2) <<< 24) ||| byte (n - 1) |||
    (UInt64.ofNat n <<< 8)
  finishShort (combined ^^^ ((read32 secret 0 ^^^ read32 secret 4) + seed))

def hash4to8 (input : Bytes) (seed : UInt64) : UInt64 :=
  let n := UInt64.ofNat input.size
  let seed := seed ^^^ swapBytes (seed % 0x100000000)
  let flip := (read64 secret 8 ^^^ read64 secret 16) - seed
  let h := (read32 input (input.size - 4) + (read32 input 0 <<< 32)) ^^^ flip
  let h := (h ^^^ rotate h 49 ^^^ rotate h 24) * 0x9FB21C651E98DF25
  let h := (h ^^^ ((h >>> 35) + n)) * 0x9FB21C651E98DF25
  h ^^^ (h >>> 28)

def hash9to16 (input : Bytes) (seed : UInt64) : UInt64 :=
  let lo := read64 input 0 ^^^ ((read64 secret 24 ^^^ read64 secret 32) + seed)
  let hi := read64 input (input.size - 8) ^^^ ((read64 secret 40 ^^^ read64 secret 48) - seed)
  finish (UInt64.ofNat input.size + swapBytes lo + hi + foldProduct lo hi)

/-- Mixes the sixteen bytes at a place with those of the secret at another. -/
def mix16 (input : Bytes) (seed : UInt64) (place key : Nat) : UInt64 :=
  foldProduct (read64 input place ^^^ (read64 secret key + seed))
    (read64 input (place + 8) ^^^ (read64 secret (key + 8) - seed))

/-- The hash of seventeen to one hundred and twenty-eight bytes: pairs of words from
both ends, so many that they reach the middle. -/
def hash17to128 (input : Bytes) (seed : UInt64) : UInt64 :=
  let n := input.size
  let pairs := (n - 1) / 32 + 1
  let sum := (List.range pairs).foldl (fun h i =>
    h + mix16 input seed (16 * i) (32 * i) +
      mix16 input seed (n - 16 * (i + 1)) (32 * i + 16)) (UInt64.ofNat n * prime1)
  finish sum

/-- The hash of one hundred and twenty-nine to two hundred and forty bytes. -/
def hash129to240 (input : Bytes) (seed : UInt64) : UInt64 :=
  let n := input.size
  let first := (List.range 8).foldl
    (fun h i => h + mix16 input seed (16 * i) (16 * i)) (UInt64.ofNat n * prime1)
  let rest := (List.range (n / 16 - 8)).foldl
    (fun h i => h + mix16 input seed (16 * (i + 8)) (16 * i + 3)) (finish first)
  finish (rest + mix16 input seed (n - 16) 119)

/-- The secret under a seed, added to its words and subtracted from them in turn. -/
def seededSecret (seed : UInt64) : Bytes :=
  ((List.range 12).flatMap fun i =>
    bytesOf (read64 secret (16 * i) + seed) ++ bytesOf (read64 secret (16 * i + 8) - seed)).toArray

/-- The eight accumulators before the first byte. -/
def startAccumulators : List UInt64 :=
  [small3, prime1, prime2, prime3, prime4, small2, prime5, small1]

/-- Adds sixty-four bytes of the input to the accumulators.  Each word goes to the
neighbour of its accumulator, and its product with the secret to its own. -/
def accumulate (input key : Bytes) (accs : List UInt64) (place keyPlace : Nat) : List UInt64 :=
  accs.mapIdx fun i (acc : UInt64) =>
    let own := read64 input (place + 8 * i) ^^^ read64 key (keyPlace + 8 * i)
    let neighbour := read64 input (place + 8 * (if i % 2 = 0 then i + 1 else i - 1))
    acc + neighbour + (own % 0x100000000) * (own >>> 32)

/-- Mixes the accumulators at the end of a block. -/
def scramble (key : Bytes) (accs : List UInt64) : List UInt64 :=
  accs.mapIdx fun i (acc : UInt64) => (acc ^^^ (acc >>> 47) ^^^ read64 key (128 + 8 * i)) * small1

/-- Accumulates so many runs of sixty-four bytes from a place on. -/
def accumulateRuns (input key : Bytes) (place count : Nat) (accs : List UInt64) : List UInt64 :=
  (List.range count).foldl
    (fun accs i => accumulate input key accs (place + 64 * i) (8 * i)) accs

/-- Folds the accumulators, in pairs, into one word. -/
def mergeFrom (key : Bytes) (place : Nat) (h : UInt64) : List UInt64 → UInt64
  | a :: b :: rest =>
    mergeFrom key (place + 16)
      (h + foldProduct (a ^^^ read64 key place) (b ^^^ read64 key (place + 8))) rest
  | _ => h

/-- The hash of more than two hundred and forty bytes, in blocks of sixteen runs. -/
def hashLong (input : Bytes) (seed : UInt64) : UInt64 :=
  let n := input.size
  let key := seededSecret seed
  let blocks := (n - 1) / 1024
  let accs := (List.range blocks).foldl
    (fun accs b => scramble key (accumulateRuns input key (1024 * b) 16 accs)) startAccumulators
  let accs := accumulateRuns input key (1024 * blocks) ((n - 1 - 1024 * blocks) / 64) accs
  let accs := accumulate input key accs (n - 64) 121
  finish (mergeFrom key 11 (UInt64.ofNat n * prime1) accs)

/-- The hash of a byte sequence under a seed. -/
def hash (input : Bytes) (seed : UInt64) : UInt64 :=
  let n := input.size
  if n = 0 then hashEmpty seed
  else if n ≤ 3 then hash1to3 input seed
  else if n ≤ 8 then hash4to8 input seed
  else if n ≤ 16 then hash9to16 input seed
  else if n ≤ 128 then hash17to128 input seed
  else if n ≤ 240 then hash129to240 input seed
  else hashLong input seed

end CatalogQuery.Xxh3
