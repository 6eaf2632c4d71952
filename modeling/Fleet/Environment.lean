import Fleet.KeyMap

/-!
# Environment snapshots

A snapshot holds the variables of a run as they were at its start. Lookups read the snapshot and
nothing else. The five variables that steer shared folders are named here.
-/
namespace Fleet

abbrev Environment := KeyMap String

namespace Environment

/-- Exactly `yes` in this variable switches all shared folders off. -/
def disableFolders : String := "SSSD_TEST_SUITE_BOX"

def sshfsFolders : String := "SSSD_TEST_SUITE_SSHFS"

def nfsFolders : String := "SSSD_TEST_SUITE_NFS"

def rsyncFolders : String := "SSSD_TEST_SUITE_RSYNC"

/-- A Linux guest is handed this variable if it is set, whatever it holds. -/
def bashrc : String := "SSSD_TEST_SUITE_BASHRC"

def holds (env : Environment) (name value : String) : Bool := env.get? name == some value

def startingWith (env : Environment) (start : String) : List (String × String) :=
  env.toList.filter fun pair => start.toList.isPrefixOf pair.1.toList

def foldersDisabled (env : Environment) : Bool := env.holds disableFolders "yes"

end Environment

end Fleet
