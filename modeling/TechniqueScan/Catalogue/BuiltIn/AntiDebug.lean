import TechniqueScan.Catalogue.BuiltIn.Clause

/-!
The built-in signatures that show where debuggers and analysis environments are detected and evaded,
and the rules over them.
-/

namespace TechniqueScan.BuiltIn

open Arithmetic

variable {α : Type} [Arithmetic α]

/-- What is declared for the category `anti-debug`. -/
def antiDebug : CatalogueFile α where
  version := 1
  category := "anti-debug"
  signatures :=
    [ { id := "anti_debug.ptrace_deny_attach"
        description := "ptrace(PT_DENY_ATTACH) blocks debugger attachment"
        weight := decimal 8 1
        clauses := [symbols ["ptrace"],
                    numbers [31]] },
      { id := "anti_debug.sysctl_proc_query"
        description := "sysctl process query used to test the P_TRACED flag"
        weight := decimal 5 1
        clauses := [symbols ["sysctl", "sysctlbyname"],
                    numbers [14]] },
      { id := "anti_debug.debugger_strings"
        description := "References debugger or analysis tool names"
        weight := decimal 4 1
        clauses := [strings ["LLDB", "lldb", "gdb", "debugserver", "Hopper", "IDA Pro", "dtrace",
                             "frida", "cycript"]] },
      { id := "anti_debug.timing_check"
        description := "High-resolution timing probes around code regions"
        weight := decimal 25 2
        clauses := [symbols ["mach_absolute_time", "clock_gettime_nsec_np"]] },
      { id := "anti_debug.exception_port_check"
        description := "Inspects task exception ports for an attached debugger"
        weight := decimal 55 2
        clauses := [symbols ["task_get_exception_ports"]] },
      { id := "anti_debug.isatty_check"
        description := "Terminal or parent process probing"
        weight := decimal 15 2
        clauses := [symbols ["isatty", "getppid"]] },
      { id := "anti_debug.vm_artifacts"
        description := "Virtual machine or sandbox artifact names"
        weight := decimal 45 2
        clauses := [strings ["VMware", "VirtualBox", "Parallels", "QEMU", "vmhgfs", "VBoxGuest",
                             "prl_"]] },
      { id := "anti_debug.hardware_model_probe"
        description := "Hardware model enumeration typical of VM detection"
        weight := decimal 3 1
        clauses := [strings ["hw.model", "machdep.cpu.brand_string", "IOPlatformSerialNumber"]] },
      { id := "anti_debug.code_signature_check"
        description := "Validates its own code signature at runtime"
        weight := decimal 35 2
        clauses := [symbols ["SecStaticCodeCheckValidity", "SecCodeCheckValidity",
                             "SecCodeCopySelf", "csops"]] },
      { id := "anti_debug.dynamic_api_resolution"
        description := "Runtime symbol lookup hides imported APIs"
        weight := decimal 3 1
        clauses := [symbols ["dlsym", "NSAddressOfSymbol", "dyld_get_image_header"]] },
      { id := "anti_debug.rdtsc_timing"
        description := "Inline timestamp counter reads"
        weight := decimal 35 2
        clauses := [window [.mnemonic "rdtsc"]] } ]
  rules :=
    [ { id := "anti_debug.ptrace_with_debugger_strings"
        description := "ptrace denial alongside debugger name probing"
        signatures := ["anti_debug.ptrace_deny_attach", "anti_debug.debugger_strings"]
        boost := ofNat 0 },
      { id := "anti_debug.layered_debugger_detection"
        description := "Several independent debugger checks in one routine"
        signatures := ["anti_debug.sysctl_proc_query", "anti_debug.timing_check",
                       "anti_debug.exception_port_check"]
        boost := decimal 1 1 } ]

end TechniqueScan.BuiltIn
