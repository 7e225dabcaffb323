import TechniqueScan.Catalogue.BuiltIn.Clause

/-!
The built-in signatures that show where code is brought into other processes,
and the rules over them.
-/

namespace TechniqueScan.BuiltIn

open Arithmetic

variable {α : Type} [Arithmetic α]

/-- What is declared for the category `process-injection`. -/
def processInjection : CatalogueFile α where
  version := 1
  category := "process-injection"
  signatures :=
    [ { id := "process_injection.task_for_pid"
        description := "Obtains a foreign task port"
        weight := decimal 55 2
        clauses := [symbols ["task_for_pid"]] },
      { id := "process_injection.remote_memory_write"
        description := "Allocates and writes memory in another task"
        weight := decimal 6 1
        clauses := [symbols ["mach_vm_allocate", "vm_allocate"],
                    symbols ["mach_vm_write", "vm_write"]] },
      { id := "process_injection.memory_protect"
        description := "Changes protections of task memory"
        weight := decimal 35 2
        clauses := [symbols ["mach_vm_protect", "vm_protect"]] },
      { id := "process_injection.remote_thread"
        description := "Creates or hijacks a thread in another task"
        weight := decimal 65 2
        clauses := [symbols ["thread_create_running", "thread_create", "thread_set_state"]] },
      { id := "process_injection.dylib_loading"
        description := "Runtime library loading"
        weight := decimal 25 2
        clauses := [symbols ["dlopen", "NSCreateObjectFileImageFromMemory", "NSLinkModule"]] },
      { id := "process_injection.bundle_loading"
        description := "Bundle loading through Foundation or CoreFoundation"
        weight := decimal 2 1
        clauses := [symbols ["CFBundleLoadExecutable", "CFBundleCreate"]] },
      { id := "process_injection.process_spawn"
        description := "Spawns child processes"
        weight := decimal 2 1
        clauses := [symbols ["fork", "vfork", "execve", "execv", "execvp", "posix_spawn",
                             "posix_spawnp", "system", "popen"]] },
      { id := "process_injection.nstask"
        description := "Objective-C or Swift process launching"
        weight := decimal 2 1
        clauses := [strings ["NSTask", "launchedTaskWithLaunchPath:arguments:", "setLaunchPath:"]] },
      { id := "process_injection.ptrace_attach"
        description := "ptrace attach to another process"
        weight := decimal 45 2
        clauses := [symbols ["ptrace"],
                    numbers [10, 16]] },
      { id := "process_injection.dyld_images"
        description := "Walks loaded images to find injection targets"
        weight := decimal 15 2
        clauses := [symbols ["_dyld_image_count", "_dyld_get_image_name", "_dyld_get_image_header"]] } ]
  rules :=
    [ { id := "process_injection.classic_mach_injection"
        description := "task_for_pid, remote allocation and write, then a remote thread"
        signatures := ["process_injection.task_for_pid", "process_injection.remote_memory_write",
                       "process_injection.remote_thread"]
        boost := decimal 2 1 },
      { id := "process_injection.remote_write_protect"
        description := "Remote write followed by a protection change"
        signatures := ["process_injection.remote_memory_write",
                       "process_injection.memory_protect"]
        boost := decimal 1 1 } ]

end TechniqueScan.BuiltIn
