import TechniqueScan.Catalogue.BuiltIn.Clause

/-!
The built-in signatures that show where the kernel is called without the system libraries,
and the rules over them.
-/

namespace TechniqueScan.BuiltIn

open Arithmetic

variable {α : Type} [Arithmetic α]

/-- What is declared for the category `syscall`. -/
def syscall : CatalogueFile α where
  version := 1
  category := "syscall"
  signatures :=
    [ { id := "syscall.x86_syscall_instruction"
        description := "Inline x86-64 syscall instruction"
        weight := decimal 45 2
        clauses := [window [.mnemonic "syscall"]] },
      { id := "syscall.arm_svc_instruction"
        description := "Inline ARM supervisor call"
        weight := decimal 45 2
        clauses := [window [.mnemonic "svc"]] },
      { id := "syscall.bsd_class_numbers"
        description := "BSD-class syscall numbers (0x2000000 range)"
        weight := decimal 4 1
        clauses := [numbersBetween 33554432 33554943] },
      { id := "syscall.loaded_number_then_trap"
        description := "Syscall number loaded into rax immediately before the trap"
        weight := decimal 6 1
        clauses := [window [.detailed "mov" (some "eax"), .mnemonic "syscall"]] },
      { id := "syscall.wrappers"
        description := "Generic syscall wrappers"
        weight := decimal 35 2
        clauses := [symbols ["syscall", "__syscall", "__mac_syscall"]] },
      { id := "syscall.mach_traps"
        description := "Direct Mach trap calls"
        weight := decimal 3 1
        clauses := [symbols ["mach_msg_trap", "thread_self_trap", "task_self_trap",
                             "semaphore_wait_trap", "semaphore_signal_trap"]] },
      { id := "syscall.dangerous_calls"
        description := "Security-critical syscalls"
        weight := decimal 25 2
        clauses := [symbols ["ptrace", "task_for_pid", "vm_read", "vm_write", "csops"]] },
      { id := "syscall.sandbox_calls"
        description := "Sandbox manipulation"
        weight := decimal 35 2
        clauses := [symbols ["sandbox_init", "sandbox_init_with_parameters", "sandbox_check"]] } ]
  rules :=
    [ { id := "syscall.direct_invocation"
        description := "Direct syscall with a BSD-class number"
        signatures := ["syscall.bsd_class_numbers", "syscall.x86_syscall_instruction"]
        boost := decimal 1 1 } ]

end TechniqueScan.BuiltIn
