import Zpl.Fault.Incident
import Zpl.Text.Utf8

/-!
# Output files

A file is named by a path from the working directory, or from the top of the file system. Where a
text ends up that is written to a file, if it can be written at all, is up to the file system.

The usual file system is one of a machine on which nothing else has been done: its working directory
is empty, and of the rest only the directories and files are there that always are. There a path is
followed name by name. It leads to a new file if only its last name is missing; a directory cannot
be written, and whatever lies below a directory that is not there cannot be created.

## Main definitions

* `File.normalized` — a path without empty parts and single dots.
* `File.Destination` — where a text ends up that is written to a file.
* `File.usual` — the usual file system.

## Main statements

* `File.join_parts` — the parts of a path, with slashes between them, are the path.
-/

namespace Zpl.File

def slash : CodePoint := .scalar '/'

/-- The parts of a path between its slashes. -/
def parts : Text → List Text
  | [] => [[]]
  | c :: cs =>
    if c = slash then [] :: parts cs
    else
      match parts cs with
      | first :: rest => (c :: first) :: rest
      | [] => [[c]]

theorem parts_ne_nil (path : Text) : parts path ≠ [] := by
  cases path with
  | nil => simp [parts]
  | cons c cs =>
    rw [parts]
    split
    · simp
    · split <;> simp

/-- Nothing of a path but its slashes lies outside its parts. -/
theorem join_parts (path : Text) : Text.join [slash] (parts path) = path := by
  induction path with
  | nil => rfl
  | cons c cs ih =>
    rw [parts]
    obtain ⟨first, rest, h⟩ := List.exists_cons_of_ne_nil (parts_ne_nil cs)
    rw [h] at ih ⊢
    by_cases hc : c = slash
    · subst hc
      rw [if_pos rfl]
      simpa [Text.join, List.intercalate] using ih
    · rw [if_neg hc]
      cases rest with
      | nil => simpa [Text.join, List.intercalate] using ih
      | cons second rest => simpa [Text.join, List.intercalate] using ih

def dot : Text := "."

def dotDot : Text := ".."

/-- The parts of a path that lead somewhere. -/
def names (path : Text) : List Text :=
  (parts path).filter fun part => !part.isEmpty && part != dot

/-- The slashes in front of a path: two stay two, and more count as one. -/
def root (path : Text) : Text :=
  match (path.takeWhile (· = slash)).length with
  | 0 => []
  | 2 => "//"
  | _ => "/"

/-- A path without empty parts and single dots. -/
def normalized (path : Text) : Text :=
  let joined := root path ++ Text.join [slash] (names path)
  if joined.isEmpty then dot else joined

/-- Where a text ends up that is written to a file. -/
inductive Destination where
  /-- A file in the working directory, or below it. -/
  | file (name : Text)
  | elsewhere
  deriving DecidableEq, Repr

/-! ### Obstacles -/

/-- The longest name of a file, in bytes. -/
def maxNameLength : Nat := 255

/-- The longest path, in bytes. -/
def maxPathLength : Nat := 4095

/-- The length of a text in bytes. -/
def byteLength (t : Text) : Nat := (t.flatMap Utf8.encodeCodePoint).length

/-- A system error, about a file if one is given. -/
def systemFault (number : Int) (message : String) (path : Option Text) : Fault :=
  let args : List Value := .int number :: .text message :: (path.toList.map .text)
  .incident {
    kind := (IncidentClass.numbered? args).getD (IncidentClass.named "OSError")
    args := args }

/-- A directory: the working directory, which is empty, or one that names lead to from the top. -/
inductive Place where
  | here
  | below (names : List Text)
  deriving DecidableEq, Repr

/-- What a name stands for in a directory. -/
inductive Entry where
  | directory (place : Place)
  /-- Something else than a directory. -/
  | file (path : Text)
  | missing
  deriving DecidableEq, Repr

namespace Place

/-- The directory of temporary files, in which the working directory lies. -/
def temporary : Place := .below ["tmp"]

/-- The directory that a directory lies in. -/
def parent : Place → Place
  | .here => temporary
  | .below names => .below names.dropLast

end Place

/-- The usual directories, by the names that lead to them from the top. -/
def directories : List String :=
  ["boot", "dev", "dev/mqueue", "dev/pts", "dev/shm", "etc", "etc/apt", "etc/default", "etc/opt",
    "etc/profile.d", "etc/security", "etc/skel", "etc/ssl", "etc/ssl/certs", "home", "media", "mnt",
    "opt", "proc", "proc/bus", "proc/fs", "proc/irq", "proc/self", "proc/self/fd", "proc/sys",
    "root", "run", "run/lock", "srv", "sys", "sys/block", "sys/bus", "sys/class", "sys/dev",
    "sys/devices", "sys/firmware", "sys/fs", "sys/kernel", "sys/module", "sys/power", "tmp", "usr",
    "usr/bin", "usr/games", "usr/include", "usr/lib", "usr/lib64", "usr/libexec", "usr/local",
    "usr/local/bin", "usr/local/etc", "usr/local/games", "usr/local/include", "usr/local/lib",
    "usr/local/sbin", "usr/local/share", "usr/local/share/man", "usr/local/src", "usr/sbin",
    "usr/share", "usr/share/doc", "usr/share/man", "usr/share/zoneinfo", "usr/src", "var",
    "var/backups", "var/cache", "var/lib", "var/lib/apt", "var/lib/dpkg", "var/local", "var/log",
    "var/mail", "var/opt", "var/spool", "var/tmp"]

/-- Other names of directories. -/
def links : List (String × String) :=
  [("bin", "usr/bin"), ("lib", "usr/lib"), ("lib64", "usr/lib64"), ("sbin", "usr/sbin"),
    ("dev/fd", "proc/self/fd"), ("usr/local/man", "usr/local/share/man"), ("var/lock", "run/lock"),
    ("var/run", "run")]

/-- The usual devices and files. -/
def files : List String :=
  ["dev/full", "dev/null", "dev/ptmx", "dev/random", "dev/stderr", "dev/stdin", "dev/stdout",
    "dev/tty", "dev/urandom", "dev/zero", "etc/fstab", "etc/group", "etc/hostname", "etc/hosts",
    "etc/passwd", "etc/profile", "etc/resolv.conf", "etc/shadow", "proc/cpuinfo", "proc/meminfo",
    "proc/version"]

/-- What names that lead from the top stand for. -/
def standing (names : List Text) : Entry :=
  let path := Text.join [slash] names
  let isPath (known : String) : Bool := Text.ofString known == path
  match links.find? fun link => isPath link.1 with
  | some (_, target) => .directory (.below (parts (Text.ofString target)))
  | none =>
    if directories.any isPath then .directory (.below names)
    else if files.any isPath then .file path
    else .missing

/-- What a name stands for in a directory. -/
def entry (place : Place) (name : Text) : Entry :=
  if name = dotDot then .directory place.parent
  else
    match place with
    | .here => .missing
    | .below names => standing (names ++ [name])

/-- What becomes of a text that is written to one of the usual devices and files. -/
def writtenTo (path known : Text) : Except Fault Destination :=
  if known = "dev/full" then .error (systemFault 28 "No space left on device" none)
  else if known = "dev/tty" then
    .error (systemFault 6 "No such device or address" (some path))
  else .ok .elsewhere

/-- What becomes of a text that is written to a new file in a directory. Nothing new can be made
among the files that the system shows its own state in. -/
def createdIn (path : Text) (place : Place) (name : Text) : Except Fault Destination :=
  match place with
  | .here => .ok (.file name)
  | .below names =>
    if names.head? = some "proc" then
      .error (systemFault 2 "No such file or directory" (some path))
    else if names.head? = some "sys" then
      .error (systemFault 30 "Read-only file system" (some path))
    else .ok .elsewhere

/-- Where the file of the last name on a path is. -/
def lastEntry (path : Text) (place : Place) (name : Text) : Except Fault Destination :=
  match entry place name with
  | .directory _ => .error (systemFault 21 "Is a directory" (some path))
  | .file known => writtenTo path known
  | .missing => createdIn path place name

/-- Follows the names of a path from a directory. -/
def follow (path : Text) (place : Place) : List Text → Except Fault Destination
  | [] => .error (systemFault 21 "Is a directory" (some path))
  | name :: rest =>
    if maxNameLength < byteLength name then
      .error (systemFault 36 "File name too long" (some path))
    else if rest.isEmpty then lastEntry path place name
    else
      match entry place name with
      | .directory next => follow path next rest
      | .file _ => .error (systemFault 20 "Not a directory" (some path))
      | .missing => .error (systemFault 2 "No such file or directory" (some path))

/-- The usual file system: where a text ends up that is written to the file of a normalized path, or
why it cannot be written. -/
def usual (path : Text) : Except Fault Destination :=
  if path.contains (.scalar '\x00') then
    .error (.incident { kind := IncidentClass.named "ValueError", args := ["embedded null byte"] })
  else if maxPathLength < byteLength path then
    .error (systemFault 36 "File name too long" (some path))
  else follow path (if (root path).isEmpty then .here else .below []) (names path)

end Zpl.File
