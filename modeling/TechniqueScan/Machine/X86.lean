import TechniqueScan.Machine.Code

/-!
Machine code of x86 processors in their modes of 64 and of 32 bits: system calls, traps, jumps and
calls, and the loading of numbers and addresses in front of them.
-/

namespace TechniqueScan.Machine.X86

open Binary

/-- The registers of 32 bits, by their numbers. -/
def registerName (n : Nat) : String :=
  ["eax", "ecx", "edx", "ebx", "esp", "ebp", "esi", "edi"].getD n ""

/-- Code that is being read: the mode, the bytes, and where the instruction begins. -/
structure Context where
  /-- Whether addresses have 64 bits. -/
  wide : Bool
  code : ByteArray
  offset : Nat
  address : UInt64

namespace Context

/-- A byte of the instruction. -/
def byte? (x : Context) (i : Nat) : Option Nat := x.code[x.offset + i]?.map (·.toNat)

/-- Whether the instruction goes on with some bytes. -/
def continues (x : Context) (i : Nat) : List Nat → Bool
  | [] => true
  | b :: bs => x.byte? i == some b && x.continues (i + 1) bs

/-- An unsigned number inside the instruction. -/
def number? (x : Context) (i width : Nat) : Option Nat :=
  Binary.number? .little x.code (x.offset + i) width

/-- A number with a sign inside the instruction. -/
def signed? (x : Context) (i width : Nat) : Option Int :=
  (x.number? i width).map (signed (8 * width))

/-- A register by its name without the letter for its width. -/
def register (x : Context) (name : String) : String := (if x.wide then "r" else "e") ++ name

/-- An instruction without operands that hold numbers. -/
def simple (_ : Context) (length : Nat) (mnemonic operands : String) : Option Decoded :=
  some { length, mnemonic, operands }

/-- An address at a distance from the next instruction. -/
def relative (x : Context) (length : Nat) (distance : Int) : UInt64 :=
  let target := x.address + UInt64.ofNat length + wordOfInt distance
  if x.wide then target else UInt64.ofNat (target.toNat % 1 <<< 32)

/-- A jump or a call by a distance of some bytes, which is the last part of the instruction. -/
def branch (x : Context) (start width : Nat) (mnemonic : String) (isCall : Bool) :
    Option Decoded := do
  let distance ← x.signed? start width
  let length := start + width
  let target := x.relative length distance
  some { length, mnemonic, operands := numeral target.toNat, immediates := [(0, target)], isCall }

/-- A place in memory: relative to the next instruction, or absolute in the mode of 32 bits. -/
def place (x : Context) (distance : Int) : String :=
  if x.wide then
    if distance = 0 then "[rip]"
    else if distance < 0 then "[rip - " ++ numeral distance.natAbs ++ "]"
    else "[rip + " ++ numeral distance.natAbs ++ "]"
  else "[" ++ numeral (distance % (1 <<< 32 : Nat)).toNat ++ "]"

/-- An instruction on a place in memory whose distance is its last part. -/
def memory (x : Context) (start : Nat) (mnemonic lead : String) (isCall : Bool) :
    Option Decoded := do
  let distance ← x.signed? start 4
  let length := start + 4
  some
    { length, mnemonic, operands := lead ++ x.place distance
      memoryTarget := if x.wide then
          some (x.address + UInt64.ofNat length + wordOfInt distance) else none
      isCall }

/-- The load of a number into a register. -/
def load (_ : Context) (length : Nat) (mnemonic target : String) (value : UInt64) :
    Option Decoded :=
  some { length, mnemonic, operands := target ++ ", " ++ numeral value.toNat,
         immediates := [(1, value)] }

/-- An instruction whose only operand is an unsigned number. -/
def operand (x : Context) (width : Nat) (mnemonic : String) : Option Decoded := do
  let n ← x.number? 1 width
  some { length := 1 + width, mnemonic, operands := numeral n,
         immediates := [(0, UInt64.ofNat n)] }

/-- The push of a number with a sign. -/
def push (x : Context) (width : Nat) : Option Decoded := do
  let i ← x.signed? 1 width
  some { length := 1 + width, mnemonic := "push", operands := signedNumeral i,
         immediates := [(0, wordOfInt i)] }

/-- Instructions of two bytes and more that begin with a certain byte. -/
def long (x : Context) : Nat → Option Decoded
  | 0x0f =>
    if x.continues 1 [0x05] then x.simple 2 "syscall" ""
    else if x.continues 1 [0x31] then x.simple 2 "rdtsc" ""
    else none
  | 0x00 => if x.continues 1 [0x00] then x.simple 2 "add" ("byte ptr [" ++ x.register "ax" ++ "], al")
    else none
  | 0x21 =>
    if x.continues 1 [0x3c, 0x61] then
      x.simple 3 "and" ("dword ptr [" ++ x.register "cx" ++ " + " ++ x.register "iz" ++ "*2], edi")
    else none
  | 0x29 => if x.continues 1 [0xd8] then x.simple 2 "sub" "eax, ebx" else none
  | 0x31 => if x.continues 1 [0xc0] then x.simple 2 "xor" "eax, eax" else none
  | 0x8d => if x.continues 1 [0x3d] then x.memory 2 "lea" "edi, " false else none
  | 0xc7 =>
    if x.continues 1 [0xc0] then do
      x.load 6 "mov" "eax" (UInt64.ofNat (← x.number? 2 4))
    else none
  | 0xff =>
    let width := if x.wide then "qword" else "dword"
    if x.continues 1 [0xe0] then x.simple 2 "jmp" (x.register "ax")
    else if x.continues 1 [0x15] then x.memory 2 "call" (width ++ " ptr ") true
    else if x.continues 1 [0x25] then x.memory 2 "jmp" (width ++ " ptr ") false
    else none
  | _ => none

/-- Instructions on whole words, behind the mark for them; without that mode it is a decrement. -/
def onWords (x : Context) : Option Decoded :=
  if !x.wide then x.simple 1 "dec" "eax"
  else if x.continues 1 [0xb8] then do
    x.load 10 "movabs" "rax" (UInt64.ofNat (← x.number? 2 8))
  else if x.continues 1 [0xc7, 0xc0] then do
    x.load 7 "mov" "rax" (wordOfInt (← x.signed? 3 4))
  else if x.continues 1 [0x29, 0xd8] then x.simple 3 "sub" "rax, rbx"
  else if x.continues 1 [0x8d, 0x3d] then x.memory 3 "lea" "rdi, " false
  else none

end Context

/-- Reads one instruction. -/
def decode (wide : Bool) : Decoder := fun code offset address => do
  let x : Context := ⟨wide, code, offset, address⟩
  match ← x.byte? 0 with
  | 0x06 => if wide then none else x.simple 1 "push" "es"
  | 0x48 => x.onWords
  | 0x50 => x.simple 1 "push" (x.register "ax")
  | 0x58 => x.simple 1 "pop" (x.register "ax")
  | 0x68 => x.push 4
  | 0x6a => x.push 1
  | 0x7f => x.branch 1 1 "jg" false
  | 0x90 => x.simple 1 "nop" ""
  | 0xc2 => x.operand 2 "ret"
  | 0xc3 => x.simple 1 "ret" ""
  | 0xcc => x.simple 1 "int3" ""
  | 0xcd => x.operand 1 "int"
  | 0xe8 => x.branch 1 4 "call" true
  | 0xe9 => x.branch 1 4 "jmp" false
  | 0xeb => x.branch 1 1 "jmp" false
  | b =>
    if 0xb8 ≤ b ∧ b < 0xc0 then
      x.load 5 "mov" (registerName (b - 0xb8)) (UInt64.ofNat (← x.number? 1 4))
    else x.long b

end TechniqueScan.Machine.X86
