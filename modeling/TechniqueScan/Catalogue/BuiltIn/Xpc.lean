import TechniqueScan.Catalogue.BuiltIn.Clause

/-!
The built-in signatures that show where XPC services are offered and used,
and the rules over them.
-/

namespace TechniqueScan.BuiltIn

open Arithmetic

variable {α : Type} [Arithmetic α]

/-- What is declared for the category `xpc`. -/
def xpc : CatalogueFile α where
  version := 1
  category := "xpc"
  signatures :=
    [ { id := "xpc.connection_create"
        description := "Creates an XPC connection"
        weight := decimal 3 1
        clauses := [symbols ["xpc_connection_create", "xpc_connection_create_mach_service"]] },
      { id := "xpc.listener"
        description := "Listens as an XPC service"
        weight := decimal 35 2
        clauses := [symbols ["xpc_main", "xpc_connection_create_listener"],
                    symbols ["xpc_connection_set_event_handler"]] },
      { id := "xpc.message_handler"
        description := "Installs an XPC event handler"
        weight := decimal 25 2
        clauses := [symbols ["xpc_connection_set_event_handler"]] },
      { id := "xpc.message_send"
        description := "Sends XPC messages"
        weight := decimal 2 1
        clauses := [symbols ["xpc_connection_send_message",
                             "xpc_connection_send_message_with_reply",
                             "xpc_connection_send_message_with_reply_sync"]] },
      { id := "xpc.dictionary_access"
        description := "Reads fields from inbound XPC dictionaries"
        weight := decimal 15 2
        clauses := [regex .symbol "^xpc_dictionary_get_(string|int64|uint64|data|value|bool)$"] },
      { id := "xpc.peer_validation"
        description := "Validates the connecting peer"
        weight := decimal 2 1
        clauses := [symbols ["xpc_connection_get_audit_token", "xpc_connection_get_pid",
                             "xpc_connection_set_peer_code_signing_requirement",
                             "SecCodeCopyGuestWithAttributes"]] },
      { id := "xpc.nsxpc"
        description := "NSXPCConnection / NSXPCListener usage"
        weight := decimal 25 2
        clauses := [strings ["NSXPCConnection", "NSXPCListener", "NSXPCInterface"]] },
      { id := "xpc.pid_based_trust"
        description := "Trusts peers by pid (racy validation)"
        weight := decimal 5 1
        clauses := [symbols ["xpc_connection_get_pid"],
                    symbols ["proc_pidpath"]] } ]
  rules :=
    [ { id := "xpc.unvalidated_service"
        description := "Listener dispatching dictionary reads from inbound messages"
        signatures := ["xpc.listener", "xpc.dictionary_access"]
        boost := decimal 1 1 } ]

end TechniqueScan.BuiltIn
