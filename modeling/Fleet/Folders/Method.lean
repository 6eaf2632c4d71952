import Fleet.Environment

/-!
# Ways to mount a shared folder

There are three known ways, always listed in the same order. Each has a category name, which is
its member under `folders` in the configuration document, and an environment variable. A category
that is not known has a variable too, named after its ASCII upper case.
-/
namespace Fleet.Folders

inductive Method where
  | sshfs
  | nfs
  | rsync
  deriving DecidableEq, Repr

namespace Method

def all : List Method := [sshfs, nfs, rsync]

def category : Method → String
  | sshfs => "sshfs"
  | nfs => "nfs"
  | rsync => "rsync"

def environmentVariable : Method → String
  | sshfs => Environment.sshfsFolders
  | nfs => Environment.nfsFolders
  | rsync => Environment.rsyncFolders

def ofCategory? (category : String) : Option Method :=
  all.find? fun method => method.category == category

end Method

def defaultVariable (category : String) : String :=
  match Method.ofCategory? category with
  | some method => method.environmentVariable
  | none => "SSSD_TEST_SUITE_" ++ String.ofList (category.toList.map Char.toUpper)

end Fleet.Folders
