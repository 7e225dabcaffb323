import TechniqueScan.Text.Blank

/-!
The technique domains a signature, a rule or a finding belongs to, in the order in which reports
list them.
-/

namespace TechniqueScan

/-- A technique domain. -/
inductive Category where
  | antiDebug | c2 | fileOps | keychain | machIpc | network | persistence
  | privilegeEscalation | processInjection | rootkit | syscall | xpc
  deriving DecidableEq, Repr, Inhabited

namespace Category

/-- Every category, in report order. -/
def all : List Category :=
  [antiDebug, c2, fileOps, keychain, machIpc, network, persistence,
   privilegeEscalation, processInjection, rootkit, syscall, xpc]

/-- The identifier used in catalogues, settings and documents. -/
def id : Category → String
  | antiDebug => "anti-debug"
  | c2 => "c2"
  | fileOps => "file-ops"
  | keychain => "keychain"
  | machIpc => "mach-ipc"
  | network => "network"
  | persistence => "persistence"
  | privilegeEscalation => "privilege-escalation"
  | processInjection => "process-injection"
  | rootkit => "rootkit"
  | syscall => "syscall"
  | xpc => "xpc"

/-- The heading used in console reports. -/
def label : Category → String
  | antiDebug => "Anti-Debugging / Anti-Analysis"
  | c2 => "Command & Control"
  | fileOps => "File Operation Vulnerabilities"
  | keychain => "Keychain & Credentials"
  | machIpc => "Mach IPC"
  | network => "Networking"
  | persistence => "Persistence"
  | privilegeEscalation => "Privilege Escalation"
  | processInjection => "Process Injection"
  | rootkit => "Rootkit Behavior"
  | syscall => "Raw System Calls"
  | xpc => "XPC"

/-- The position in report order. -/
def rank (c : Category) : Nat := c.ctorIdx

instance : Ord Category := ⟨fun a b => compare a.rank b.rank⟩

/-- The category with exactly this identifier. -/
def ofId? (s : String) : Option Category := all.find? fun c => c.id = s

/-- The category named by a text, blanks around it aside. -/
def parse? (s : String) : Option Category := ofId? (Text.trim s)

theorem mem_all (c : Category) : c ∈ all := by cases c <;> decide

theorem ofId?_id (c : Category) : ofId? c.id = some c := by cases c <;> decide

end Category

/-- What is said of a text that names no category. -/
def unknownCategory (s : String) : String := "unknown category '" ++ s ++ "'"

end TechniqueScan
