import TechniqueScan.Catalogue.BuiltIn.AntiDebug
import TechniqueScan.Catalogue.BuiltIn.CommandAndControl
import TechniqueScan.Catalogue.BuiltIn.FileOps
import TechniqueScan.Catalogue.BuiltIn.Keychain
import TechniqueScan.Catalogue.BuiltIn.MachIpc
import TechniqueScan.Catalogue.BuiltIn.Network
import TechniqueScan.Catalogue.BuiltIn.Persistence
import TechniqueScan.Catalogue.BuiltIn.PrivilegeEscalation
import TechniqueScan.Catalogue.BuiltIn.ProcessInjection
import TechniqueScan.Catalogue.BuiltIn.Rootkit
import TechniqueScan.Catalogue.BuiltIn.Syscall
import TechniqueScan.Catalogue.BuiltIn.Xpc
import TechniqueScan.Catalogue.Registry

/-!
The built-in catalogue, which is used unless the user brings another one.
-/

namespace TechniqueScan.BuiltIn

variable {α : Type} [Arithmetic α]

/-- The files of the catalogue with their names, one for each category in report order. -/
def files : List (String × CatalogueFile α) :=
  [ ("anti-debug.yaml", antiDebug),
    ("c2.yaml", commandAndControl),
    ("file-ops.yaml", fileOps),
    ("keychain.yaml", keychain),
    ("mach-ipc.yaml", machIpc),
    ("network.yaml", network),
    ("persistence.yaml", persistence),
    ("privilege-escalation.yaml", privilegeEscalation),
    ("process-injection.yaml", processInjection),
    ("rootkit.yaml", rootkit),
    ("syscall.yaml", syscall),
    ("xpc.yaml", xpc) ]

/-- The registry of the built-in catalogue. -/
def registry : Except (CatalogueError α) (Registry α) := Registry.ofFiles files

end TechniqueScan.BuiltIn
