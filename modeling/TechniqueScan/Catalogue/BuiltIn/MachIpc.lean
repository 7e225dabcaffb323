import TechniqueScan.Catalogue.BuiltIn.Clause

/-!
The built-in signatures that show where Mach messages and ports are used,
and the rules over them.
-/

namespace TechniqueScan.BuiltIn

open Arithmetic

variable {α : Type} [Arithmetic α]

/-- What is declared for the category `mach-ipc`. -/
def machIpc : CatalogueFile α where
  version := 1
  category := "mach-ipc"
  signatures :=
    [ { id := "mach_ipc.port_allocation"
        description := "Allocates or manipulates Mach port rights"
        weight := decimal 3 1
        clauses := [symbols ["mach_port_allocate", "mach_port_insert_right", "mach_port_deallocate",
                             "mach_port_mod_refs"]] },
      { id := "mach_ipc.message_send"
        description := "Raw Mach message traffic"
        weight := decimal 35 2
        clauses := [symbols ["mach_msg", "mach_msg_overwrite", "mach_msg_send"]] },
      { id := "mach_ipc.bootstrap_lookup"
        description := "Looks up a named bootstrap service"
        weight := decimal 4 1
        clauses := [symbols ["bootstrap_look_up", "bootstrap_look_up2"]] },
      { id := "mach_ipc.bootstrap_check_in"
        description := "Registers a bootstrap service"
        weight := decimal 35 2
        clauses := [symbols ["bootstrap_check_in", "bootstrap_register"]] },
      { id := "mach_ipc.mig_server"
        description := "MIG demux or server routine"
        weight := decimal 45 2
        clauses := [regex .symbol "(_server|_server_routine|_subsystem)$"] },
      { id := "mach_ipc.mig_message_ids"
        description := "MIG-style message ids in a reply dispatch"
        weight := decimal 2 1
        clauses := [numbersBetween 100 99999,
                    symbols ["mig_get_reply_port", "mig_dealloc_reply_port"]] },
      { id := "mach_ipc.audit_token"
        description := "Sender audit token inspection"
        weight := decimal 2 1
        clauses := [symbols ["audit_token_to_pid", "audit_token_to_euid"]] },
      { id := "mach_ipc.service_names"
        description := "Reverse-DNS Mach service names"
        weight := decimal 15 2
        clauses := [regex .string "^com\\.apple\\.[a-zA-Z0-9_.-]+$"] } ]
  rules :=
    [ { id := "mach_ipc.service_client"
        description := "Looks up a service then sends it messages"
        signatures := ["mach_ipc.bootstrap_lookup", "mach_ipc.message_send"]
        boost := decimal 1 1 } ]

end TechniqueScan.BuiltIn
