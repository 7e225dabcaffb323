import TechniqueScan.Catalogue.BuiltIn.Clause

/-!
The built-in signatures that show where a program gains privileges,
and the rules over them.
-/

namespace TechniqueScan.BuiltIn

open Arithmetic

variable {α : Type} [Arithmetic α]

/-- What is declared for the category `privilege-escalation`. -/
def privilegeEscalation : CatalogueFile α where
  version := 1
  category := "privilege-escalation"
  signatures :=
    [ { id := "privilege_escalation.setuid_root"
        description := "Switches to uid 0"
        weight := decimal 6 1
        clauses := [symbols ["setuid", "seteuid", "setreuid"],
                    numbers [0]] },
      { id := "privilege_escalation.setgid"
        description := "Group id changes"
        weight := decimal 3 1
        clauses := [symbols ["setgid", "setegid", "setregid", "setgroups"]] },
      { id := "privilege_escalation.suid_bit"
        description := "Sets the set-user-id bit on a file"
        weight := decimal 55 2
        clauses := [symbols ["chmod", "fchmod"],
                    numbers [2048, 2541, 3565, 3583]] },
      { id := "privilege_escalation.authorization_execute"
        description := "AuthorizationExecuteWithPrivileges"
        weight := decimal 75 2
        clauses := [symbols ["AuthorizationExecuteWithPrivileges"]] },
      { id := "privilege_escalation.authorization_rights"
        description := "Authorization rights acquisition"
        weight := decimal 3 1
        clauses := [symbols ["AuthorizationCreate", "AuthorizationCopyRights"]] },
      { id := "privilege_escalation.credential_structures"
        description := "Kernel credential manipulation"
        weight := decimal 6 1
        clauses := [symbols ["kauth_cred_get", "kauth_cred_setuidgid", "proc_ucred",
                             "kauth_cred_proc_ref"]] },
      { id := "privilege_escalation.elevated_shell"
        description := "Elevated execution through sudo or AppleScript"
        weight := decimal 5 1
        clauses := [strings ["with administrator privileges", "do shell script", "/usr/bin/sudo",
                             "/usr/bin/osascript"]] },
      { id := "privilege_escalation.task_for_pid"
        description := "Acquires another task's control port"
        weight := decimal 55 2
        clauses := [symbols ["task_for_pid", "processor_set_tasks"]] },
      { id := "privilege_escalation.debug_entitlements"
        description := "Debugging or task-port entitlements"
        weight := decimal 4 1
        clauses := [strings ["get-task-allow", "com.apple.security.cs.debugger",
                             "task_for_pid-allow", "com.apple.system-task-ports"]] },
      { id := "privilege_escalation.smjobbless"
        description := "Blesses a privileged helper tool"
        weight := decimal 4 1
        clauses := [symbols ["SMJobBless"]] } ]
  rules :=
    [ { id := "privilege_escalation.authorized_root_exec"
        description := "Acquires rights then executes with privileges"
        signatures := ["privilege_escalation.authorization_rights",
                       "privilege_escalation.authorization_execute"]
        boost := decimal 1 1 } ]

end TechniqueScan.BuiltIn
