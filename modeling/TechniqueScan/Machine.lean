import TechniqueScan.Binary.Image
import TechniqueScan.Machine.Arm
import TechniqueScan.Machine.X86

/-!
The decoders of the architectures that are known.
-/

namespace TechniqueScan.Machine

open Binary

/-- The decoder of an architecture. -/
def decoderOf : Architecture → Decoder
  | .x86_64 => X86.decode true
  | .x86 => X86.decode false
  | .arm => Arm.decode
  | .arm64 => Arm64.decode

end TechniqueScan.Machine
