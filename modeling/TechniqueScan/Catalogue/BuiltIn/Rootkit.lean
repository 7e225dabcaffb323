import TechniqueScan.Catalogue.BuiltIn.Clause

/-!
The built-in signatures that show where a program hides in the kernel or changes it,
and the rules over them.
-/

namespace TechniqueScan.BuiltIn

open Arithmetic

variable {α : Type} [Arithmetic α]

/-- What is declared for the category `rootkit`. -/
def rootkit : CatalogueFile α where
  version := 1
  category := "rootkit"
  signatures :=
    [ { id := "rootkit.kext_load"
        description := "Loads kernel extensions"
        weight := decimal 5 1
        clauses := [strings ["kextload", "/sbin/kextload", "kmutil"]] },
      { id := "rootkit.iokit_services"
        description := "IOKit service access from user space"
        weight := decimal 2 1
        clauses := [symbols ["IOServiceGetMatchingService", "IOServiceOpen", "IOConnectCallMethod"]] },
      { id := "rootkit.sysent_hooking"
        description := "System call table references"
        weight := decimal 8 1
        clauses := [strings ["sysent", "_sysent", "nsysent"]] },
      { id := "rootkit.method_swizzling"
        description := "Objective-C method swizzling"
        weight := decimal 4 1
        clauses := [symbols ["method_exchangeImplementations", "method_setImplementation",
                             "class_replaceMethod"]] },
      { id := "rootkit.dyld_interpose"
        description := "dyld interposing section"
        weight := decimal 5 1
        clauses := [strings ["__interpose", "__DATA,__interpose"]] },
      { id := "rootkit.kernel_memory"
        description := "Kernel memory read/write primitives"
        weight := decimal 6 1
        clauses := [symbols ["kernel_task", "vm_read_overwrite", "mach_vm_read_overwrite"],
                    strings ["kernel_task", "/dev/kmem"]] },
      { id := "rootkit.process_hiding"
        description := "Process list walking typical of PID hiding"
        weight := decimal 45 2
        clauses := [strings ["allproc", "p_list", "proc_list_lock"]] },
      { id := "rootkit.kernel_symbols"
        description := "Kernel symbol resolution"
        weight := decimal 35 2
        clauses := [regex .symbol "^(kernel_|_?kauth_|IOLog|OSKext)"] },
      { id := "rootkit.inline_hook_jump"
        description := "Absolute jump trampoline (mov reg, imm; jmp reg)"
        weight := decimal 3 1
        clauses := [window [.mnemonic "movabs", .detailed "jmp" (some "r")]] } ]
  rules :=
    [ { id := "rootkit.syscall_table_patch"
        description := "sysent references alongside kernel memory access"
        signatures := ["rootkit.sysent_hooking", "rootkit.kernel_memory"]
        boost := decimal 1 1 } ]

end TechniqueScan.BuiltIn
