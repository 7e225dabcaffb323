import TechniqueScan.Machine.Code

/-!
Machine code of ARM processors, of 32 and of 64 bits: system calls, calls and returns, and the
loading of numbers in front of them. Every instruction is a word of four bytes.
-/

namespace TechniqueScan.Machine

open Binary

/-- A number as an operand. -/
def hashNumeral (n : Nat) : String := "#" ++ numeral n

/-- An instruction of four bytes whose operands hold no number. -/
def simpleWord (mnemonic operands : String) : Option Decoded :=
  some { length := 4, mnemonic, operands }

/-- An instruction of four bytes with one number among its operands. -/
def wordWith (mnemonic lead : String) (position n : Nat) (value : UInt64) : Option Decoded :=
  some { length := 4, mnemonic, operands := lead ++ hashNumeral n,
         immediates := [(position, value)] }

/-- A call of an address. -/
def wordCall (shown : Nat) (target : UInt64) : Option Decoded :=
  some { length := 4, mnemonic := "bl", operands := hashNumeral shown,
         immediates := [(0, target)], isCall := true }

namespace Arm64

/-- A register by its number; the last one is always zero. -/
def registerName (width : String) (n : Nat) : String :=
  if n = 31 then width ++ "zr" else width ++ toString n

/-- Reads one instruction. -/
def decode : Decoder := fun code offset address => do
  let word ← number? .little code offset 4
  let middle := word >>> 5 % 1 <<< 16
  if word = 0xd503201f then simpleWord "nop" ""
  else if word = 0xd65f03c0 then simpleWord "ret" ""
  else if word >>> 21 = 0xd4000000 >>> 21 ∧ word % 1 <<< 5 = 1 then
    wordWith "svc" "" 0 middle (UInt64.ofNat middle)
  else if word >>> 21 = 0xd2800000 >>> 21 then
    wordWith "mov" (registerName "x" (word % 1 <<< 5) ++ ", ") 1 middle (UInt64.ofNat middle)
  else if word >>> 21 = 0x52800000 >>> 21 then
    wordWith "mov" (registerName "w" (word % 1 <<< 5) ++ ", ") 1 middle (UInt64.ofNat middle)
  else if word >>> 26 = 0x94000000 >>> 26 then
    let target := address + wordOfInt (4 * signed 26 (word % 1 <<< 26))
    wordCall target.toNat target
  else none

end Arm64

namespace Arm

/-- The registers by their numbers. -/
def registerName (n : Nat) : String :=
  ["r0", "r1", "r2", "r3", "r4", "r5", "r6", "r7", "r8", "sb", "sl", "fp", "ip", "sp", "lr",
    "pc"].getD n ""

/-- Eight bits turned to the right by twice some number. -/
def turned (n : Nat) : Nat :=
  let bits := n % 1 <<< 8
  let right := 2 * (n >>> 8)
  bits >>> right + bits <<< (32 - right) % 1 <<< 32

/-- A number of 32 bits as a word, its highest bit being a sign. -/
def widened (n : Nat) : UInt64 := wordOfInt (signed 32 n)

/-- Reads one instruction. -/
def decode : Decoder := fun code offset address => do
  let word ← number? .little code offset 4
  let register := registerName (word >>> 12 % 1 <<< 4)
  if word >>> 4 = 0xe12fff1 then simpleWord "bx" (registerName (word % 1 <<< 4))
  else if word >>> 16 = 0xe1a0 ∧ word >>> 4 % 1 <<< 8 = 0 then
    simpleWord "mov" (register ++ ", " ++ registerName (word % 1 <<< 4))
  else if word >>> 16 = 0xe3a0 then
    let n := turned (word % 1 <<< 12)
    wordWith "mov" (register ++ ", ") 1 n (widened n)
  else if word >>> 24 = 0xef then
    wordWith "svc" "" 0 (word % 1 <<< 24) (UInt64.ofNat (word % 1 <<< 24))
  else if word >>> 24 = 0xeb then
    let distance := wordOfInt (4 * signed 24 (word % 1 <<< 24))
    let target := (address + 8 + distance).toNat % 1 <<< 32
    wordCall target (widened target)
  else none

end Arm

end TechniqueScan.Machine
