import TechniqueScan.Catalogue.BuiltIn.Clause

/-!
The built-in signatures that show where files are operated on in vulnerable ways,
and the rules over them.
-/

namespace TechniqueScan.BuiltIn

open Arithmetic

variable {α : Type} [Arithmetic α]

/-- What is declared for the category `file-ops`. -/
def fileOps : CatalogueFile α where
  version := 1
  category := "file-ops"
  signatures :=
    [ { id := "file_ops.toctou_access_open"
        description := "access() check followed by open() on the same path (TOCTOU)"
        weight := decimal 6 1
        clauses := [symbols ["access", "stat", "lstat"],
                    symbols ["open", "fopen"]] },
      { id := "file_ops.insecure_tempfile"
        description := "Predictable temporary file names"
        weight := decimal 55 2
        clauses := [symbols ["mktemp", "tmpnam", "tempnam"]] },
      { id := "file_ops.symlink_creation"
        description := "Creates symbolic or hard links"
        weight := decimal 3 1
        clauses := [symbols ["symlink", "symlinkat", "link", "linkat"]] },
      { id := "file_ops.world_writable_mode"
        description := "chmod with world-writable permissions"
        weight := decimal 5 1
        clauses := [symbols ["chmod", "fchmod", "chmodat"],
                    numbers [511, 438, 1023]] },
      { id := "file_ops.ownership_change"
        description := "Changes file ownership"
        weight := decimal 3 1
        clauses := [symbols ["chown", "fchown", "lchown"]] },
      { id := "file_ops.path_traversal_strings"
        description := "Relative parent-directory components in paths"
        weight := decimal 35 2
        clauses := [strings ["../", "..\\"]] },
      { id := "file_ops.tmp_paths"
        description := "Hard-coded shared temporary directories"
        weight := decimal 2 1
        clauses := [strings ["/tmp/", "/private/tmp/", "/var/tmp/"]] },
      { id := "file_ops.recursive_removal"
        description := "Recursive deletion helpers"
        weight := decimal 25 2
        clauses := [symbols ["removefile", "nftw", "fts_open"]] },
      { id := "file_ops.rename_without_exclusive"
        description := "rename() over paths without O_EXCL creation"
        weight := decimal 2 1
        clauses := [symbols ["rename", "renamex_np", "renameat"]] } ]
  rules :=
    [ { id := "file_ops.tmp_symlink_race"
        description := "Shared temp path combined with link creation"
        signatures := ["file_ops.tmp_paths", "file_ops.symlink_creation"]
        boost := decimal 15 2 } ]

end TechniqueScan.BuiltIn
