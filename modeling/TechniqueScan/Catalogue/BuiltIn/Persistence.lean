import TechniqueScan.Catalogue.BuiltIn.Clause

/-!
The built-in signatures that show where a program makes itself start again,
and the rules over them.
-/

namespace TechniqueScan.BuiltIn

open Arithmetic

variable {α : Type} [Arithmetic α]

/-- What is declared for the category `persistence`. -/
def persistence : CatalogueFile α where
  version := 1
  category := "persistence"
  signatures :=
    [ { id := "persistence.smjobbless"
        description := "Installs a privileged helper with SMJobBless"
        weight := decimal 6 1
        clauses := [symbols ["SMJobBless", "SMJobSubmit"]] },
      { id := "persistence.launch_agent_paths"
        description := "LaunchAgents or LaunchDaemons plist locations"
        weight := decimal 55 2
        clauses := [strings ["/Library/LaunchAgents", "/Library/LaunchDaemons", "LaunchAgents/"]] },
      { id := "persistence.launchd_keys"
        description := "launchd plist keys that keep a job alive"
        weight := decimal 3 1
        clauses := [strings ["RunAtLoad", "KeepAlive", "ProgramArguments"]] },
      { id := "persistence.login_items"
        description := "Login item registration"
        weight := decimal 45 2
        clauses := [symbols ["SMLoginItemSetEnabled", "LSSharedFileListInsertItemURL",
                             "LSSharedFileListCreate"]] },
      { id := "persistence.cron"
        description := "Cron, at, or periodic script scheduling"
        weight := decimal 4 1
        clauses := [strings ["crontab", "/usr/lib/cron/tabs", "/etc/periodic/", "/usr/bin/at"]] },
      { id := "persistence.kext_loading"
        description := "Kernel extension loading"
        weight := decimal 5 1
        clauses := [symbols ["KextManagerLoadKextWithURL", "KextManagerLoadKextWithIdentifier"]] },
      { id := "persistence.browser_extensions"
        description := "Browser extension directories"
        weight := decimal 35 2
        clauses := [strings ["Safari/Extensions", "Google/Chrome/Default/Extensions",
                             "Firefox/Profiles"]] },
      { id := "persistence.dyld_insert"
        description := "DYLD environment injection"
        weight := decimal 55 2
        clauses := [strings ["DYLD_INSERT_LIBRARIES", "DYLD_FRAMEWORK_PATH"]] },
      { id := "persistence.system_files"
        description := "Writes to startup or privilege configuration files"
        weight := decimal 45 2
        clauses := [strings ["/etc/rc.common", "/etc/sudoers", "/etc/rc.local", ".bash_profile",
                             ".zshrc"]] },
      { id := "persistence.plist_write"
        description := "Serializes property lists to disk"
        weight := decimal 15 2
        clauses := [symbols ["CFPropertyListWrite", "CFPreferencesSetValue",
                             "CFPreferencesSynchronize"]] } ]
  rules :=
    [ { id := "persistence.launch_agent_install"
        description := "Writes a keep-alive plist into a launchd directory"
        signatures := ["persistence.launch_agent_paths", "persistence.launchd_keys",
                       "persistence.plist_write"]
        boost := decimal 15 2 } ]

end TechniqueScan.BuiltIn
