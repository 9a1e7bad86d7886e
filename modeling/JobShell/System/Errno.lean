import JobShell.Text.Utf8

namespace JobShell

/-!
# Error numbers

The error numbers a system call can answer with. Each has a number, a name and
two texts: the one a failed call is reported with (`EAGAIN: Try again`) and the
one a failed file operation is reported with
(`Resource temporarily unavailable (os error 11)`).
-/

/-- An error number of the system. -/
inductive Errno where
  | eperm | enoent | esrch | eintr | eio | e2big | enoexec | ebadf | echild
  | eagain | enomem | eacces | efault | ebusy | eexist | enotdir | eisdir
  | einval | enfile | emfile | enotty | etxtbsy | enospc | erofs
  | enametoolong | enosys | enotempty | eloop
  deriving DecidableEq, Repr

namespace Errno

/-- Every error number, in increasing order. -/
def all : List Errno :=
  [.eperm, .enoent, .esrch, .eintr, .eio, .e2big, .enoexec, .ebadf, .echild,
    .eagain, .enomem, .eacces, .efault, .ebusy, .eexist, .enotdir, .eisdir,
    .einval, .enfile, .emfile, .enotty, .etxtbsy, .enospc, .erofs,
    .enametoolong, .enosys, .enotempty, .eloop]

/-- The number itself. -/
def number : Errno → Nat
  | .eperm => 1 | .enoent => 2 | .esrch => 3 | .eintr => 4 | .eio => 5
  | .e2big => 7 | .enoexec => 8 | .ebadf => 9 | .echild => 10 | .eagain => 11
  | .enomem => 12 | .eacces => 13 | .efault => 14 | .ebusy => 16
  | .eexist => 17 | .enotdir => 20 | .eisdir => 21 | .einval => 22
  | .enfile => 23 | .emfile => 24 | .enotty => 25 | .etxtbsy => 26
  | .enospc => 28 | .erofs => 30 | .enametoolong => 36 | .enosys => 38
  | .enotempty => 39 | .eloop => 40

/-- The symbolic name. -/
def name : Errno → String
  | .eperm => "EPERM" | .enoent => "ENOENT" | .esrch => "ESRCH"
  | .eintr => "EINTR" | .eio => "EIO" | .e2big => "E2BIG"
  | .enoexec => "ENOEXEC" | .ebadf => "EBADF" | .echild => "ECHILD"
  | .eagain => "EAGAIN" | .enomem => "ENOMEM" | .eacces => "EACCES"
  | .efault => "EFAULT" | .ebusy => "EBUSY" | .eexist => "EEXIST"
  | .enotdir => "ENOTDIR" | .eisdir => "EISDIR" | .einval => "EINVAL"
  | .enfile => "ENFILE" | .emfile => "EMFILE" | .enotty => "ENOTTY"
  | .etxtbsy => "ETXTBSY" | .enospc => "ENOSPC" | .erofs => "EROFS"
  | .enametoolong => "ENAMETOOLONG" | .enosys => "ENOSYS"
  | .enotempty => "ENOTEMPTY" | .eloop => "ELOOP"

/-- The error number with a name. -/
def ofName? (text : String) : Option Errno :=
  all.find? fun e => e.name == text

/-- What a failed call says about the error. -/
def callPhrase : Errno → String
  | .eperm => "Operation not permitted"
  | .enoent => "No such file or directory"
  | .esrch => "No such process"
  | .eintr => "Interrupted system call"
  | .eio => "I/O error"
  | .e2big => "Argument list too long"
  | .enoexec => "Exec format error"
  | .ebadf => "Bad file number"
  | .echild => "No child processes"
  | .eagain => "Try again"
  | .enomem => "Out of memory"
  | .eacces => "Permission denied"
  | .efault => "Bad address"
  | .ebusy => "Device or resource busy"
  | .eexist => "File exists"
  | .enotdir => "Not a directory"
  | .eisdir => "Is a directory"
  | .einval => "Invalid argument"
  | .enfile => "File table overflow"
  | .emfile => "Too many open files"
  | .enotty => "Not a typewriter"
  | .etxtbsy => "Text file busy"
  | .enospc => "No space left on device"
  | .erofs => "Read-only file system"
  | .enametoolong => "File name too long"
  | .enosys => "Function not implemented"
  | .enotempty => "Directory not empty"
  | .eloop => "Too many symbolic links encountered"

/-- What a failed file operation says about the error. -/
def filePhrase : Errno → String
  | .eio => "Input/output error"
  | .ebadf => "Bad file descriptor"
  | .eagain => "Resource temporarily unavailable"
  | .enomem => "Cannot allocate memory"
  | .enfile => "Too many open files in system"
  | .enotty => "Inappropriate ioctl for device"
  | .eloop => "Too many levels of symbolic links"
  | e => e.callPhrase

/-- The text of a failed call: the name, then the phrase. -/
def callText (e : Errno) : String :=
  s!"{e.name}: {e.callPhrase}"

/-- The text of a failed file operation: the phrase, then the number. -/
def fileText (e : Errno) : String :=
  s!"{e.filePhrase} (os error {e.number})"

end Errno

/-- Why a file operation failed. -/
inductive FileError where
  /-- The system refused it. -/
  | refused (errno : Errno)
  /-- The path holds a NUL byte, so the system was not asked. -/
  | nulInName
  deriving DecidableEq, Repr

/-- The text of a failed file operation. -/
def FileError.text : FileError → String
  | .refused errno => errno.fileText
  | .nulInName => "file name contained an unexpected NUL byte"

end JobShell
