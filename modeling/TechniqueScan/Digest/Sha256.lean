import TechniqueScan.Text.Escape

/-!
The digest SHA-256 of a sequence of bytes, by which a binary is identified.
-/

namespace TechniqueScan.Digest

/-- The chaining state of the digest before the first block. -/
def initialState : Vector UInt32 8 :=
  #v[0x6a09e667, 0xbb67ae85, 0x3c6ef372, 0xa54ff53a, 0x510e527f, 0x9b05688c, 0x1f83d9ab, 0x5be0cd19]

/-- One constant for each of the sixty-four rounds. -/
def roundConstants : Array UInt32 := #[
  0x428a2f98, 0x71374491, 0xb5c0fbcf, 0xe9b5dba5, 0x3956c25b, 0x59f111f1, 0x923f82a4, 0xab1c5ed5,
  0xd807aa98, 0x12835b01, 0x243185be, 0x550c7dc3, 0x72be5d74, 0x80deb1fe, 0x9bdc06a7, 0xc19bf174,
  0xe49b69c1, 0xefbe4786, 0x0fc19dc6, 0x240ca1cc, 0x2de92c6f, 0x4a7484aa, 0x5cb0a9dc, 0x76f988da,
  0x983e5152, 0xa831c66d, 0xb00327c8, 0xbf597fc7, 0xc6e00bf3, 0xd5a79147, 0x06ca6351, 0x14292967,
  0x27b70a85, 0x2e1b2138, 0x4d2c6dfc, 0x53380d13, 0x650a7354, 0x766a0abb, 0x81c2c92e, 0x92722c85,
  0xa2bfe8a1, 0xa81a664b, 0xc24b8b70, 0xc76c51a3, 0xd192e819, 0xd6990624, 0xf40e3585, 0x106aa070,
  0x19a4c116, 0x1e376c08, 0x2748774c, 0x34b0bcb5, 0x391c0cb3, 0x4ed8aa4a, 0x5b9cca4f, 0x682e6ff3,
  0x748f82ee, 0x78a5636f, 0x84c87814, 0x8cc70208, 0x90befffa, 0xa4506ceb, 0xbef9a3f7, 0xc67178f2]

def rotateRight (x : UInt32) (n : UInt32) : UInt32 := (x >>> n) ||| (x <<< (32 - n))

/-- The message followed by a one bit, zeros and its length in bits, in whole blocks. -/
def padded (message : ByteArray) : ByteArray :=
  let zeros := (119 - message.size % 64) % 64
  let length := message.size * 8
  let tail := (List.range 8).map fun i => (length >>> (8 * (7 - i))).toUInt8
  message ++ ByteArray.mk (#[0x80] ++ Array.replicate zeros 0 ++ tail.toArray)

/-- The big-endian word at a position, zeros standing for bytes that are not there. -/
def wordAt (bytes : ByteArray) (i : Nat) : UInt32 :=
  (List.range 4).foldl (fun w k => (w <<< 8) ||| (bytes.data.getD (i + k) 0).toUInt32) 0

/-- The schedule of a block: its sixteen words, then words computed from earlier ones. -/
def schedule (bytes : ByteArray) (start : Nat) : Array UInt32 :=
  let words := (Array.range 16).map fun i => wordAt bytes (start + 4 * i)
  (List.range 48).foldl (fun w _ =>
    let word (back : Nat) : UInt32 := w.getD (w.size - back) 0
    let x := word 15
    let y := word 2
    let s0 := rotateRight x 7 ^^^ rotateRight x 18 ^^^ (x >>> 3)
    let s1 := rotateRight y 17 ^^^ rotateRight y 19 ^^^ (y >>> 10)
    w.push (word 16 + s0 + word 7 + s1)) words

/-- One round of the compression, with its constant and its word of the schedule. -/
def compressRound (s : Vector UInt32 8) (constant word : UInt32) : Vector UInt32 8 :=
  let a := s[0]; let b := s[1]; let c := s[2]; let d := s[3]
  let e := s[4]; let f := s[5]; let g := s[6]; let h := s[7]
  let s1 := rotateRight e 6 ^^^ rotateRight e 11 ^^^ rotateRight e 25
  let choice := (e &&& f) ^^^ ((~~~ e) &&& g)
  let t1 := h + s1 + choice + constant + word
  let s0 := rotateRight a 2 ^^^ rotateRight a 13 ^^^ rotateRight a 22
  let majority := (a &&& b) ^^^ (a &&& c) ^^^ (b &&& c)
  #v[t1 + s0 + majority, a, b, c, d + t1, e, f, g]

/-- The chaining state after one more block. -/
def compress (state : Vector UInt32 8) (bytes : ByteArray) (start : Nat) : Vector UInt32 8 :=
  let words := schedule bytes start
  let mixed := (List.range 64).foldl
    (fun s i => compressRound s (roundConstants.getD i 0) (words.getD i 0)) state
  Vector.zipWith (· + ·) state mixed

/-- The digest of a message as sixty-four hexadecimal digits. -/
def sha256 (message : ByteArray) : String :=
  let bytes := padded message
  let state := (List.range (bytes.size / 64)).foldl
    (fun s i => compress s bytes (64 * i)) initialState
  String.join (state.toList.map fun w => Text.hexText 8 w.toNat)

end TechniqueScan.Digest
