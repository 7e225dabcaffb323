import TechniqueScan.Binary.Archive
import TechniqueScan.Binary.Elf
import TechniqueScan.Binary.MachO
import TechniqueScan.Binary.Pe

/-!
What kind of file a binary is. A file without the mark of a container is nothing but code.
-/

namespace TechniqueScan.Binary

/-- Whether a file begins with some bytes. -/
def beginsWith (bytes : ByteArray) (mark : List UInt8) : Bool :=
  mark.isPrefixOf (bytes.extract 0 mark.length).data.toList

/-- What a file is. -/
inductive Container where
  | image (i : Image)
  /-- Several files of different architectures in one. -/
  | universal
  /-- Code without a container, or an archive. -/
  | raw
  /-- A container that cannot be read. -/
  | malformed

/-- The marks by which it is told that a file was meant to be a container. -/
def hasContainerMark (bytes : ByteArray) : Bool :=
  let word? (order : ByteOrder) : Option Nat := number? order bytes 0 4
  let marks : List Nat := [0xfeedface, 0xfeedfacf, 0xcafebabe, 0xcafebabf]
  beginsWith bytes [0x7f, 0x45, 0x4c, 0x46] || beginsWith bytes [0x4d, 0x5a]
    || beginsWith bytes (Archive.magic.take 7)
    || (word? .little).any marks.contains || (word? .big).any marks.contains

namespace Container

/-- The fewest bytes by which the kind of a file is told. -/
def leastBytes : Nat := 16

def ofImage? : Option Image → Container
  | some i => image i
  | none => malformed

/-- What a file is. -/
def read (bytes : ByteArray) : Container :=
  if bytes.size < leastBytes then if hasContainerMark bytes then malformed else raw
  else if beginsWith bytes [0x7f, 0x45, 0x4c, 0x46] then
    ofImage? ((Elf.read? bytes).map Elf.image)
  else if beginsWith bytes Archive.magic then
    if Archive.isListable bytes then raw else malformed
  else if beginsWith bytes [0x4d, 0x5a] then ofImage? ((Pe.read? bytes).map Pe.image)
  else if beginsWith bytes [0xca, 0xfe, 0xba, 0xbe] then universal
  else if (MachO.format? bytes).isSome then ofImage? ((MachO.read? bytes).map MachO.image)
  else raw

end Container

end TechniqueScan.Binary
