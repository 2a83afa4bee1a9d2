import RpcGate.Text.Basic

/-!
# Faults of file operations and sockets
-/

namespace RpcGate

inductive Errno
  | notPermitted
  | notFound
  | accessDenied
  | busy
  | exists
  | notDirectory
  | isDirectory
  | invalidArgument
  | nameTooLong
  | tooManyLinks
  | addressInUse
  | addressNotAvailable
  | networkUnreachable
  deriving DecidableEq, Repr

namespace Errno

def number : Errno → Nat
  | notPermitted => 1
  | notFound => 2
  | accessDenied => 13
  | busy => 16
  | .exists => 17
  | notDirectory => 20
  | isDirectory => 21
  | invalidArgument => 22
  | nameTooLong => 36
  | tooManyLinks => 40
  | addressInUse => 98
  | addressNotAvailable => 99
  | networkUnreachable => 101

def text : Errno → String
  | notPermitted => "Operation not permitted"
  | notFound => "No such file or directory"
  | accessDenied => "Permission denied"
  | busy => "Device or resource busy"
  | .exists => "File exists"
  | notDirectory => "Not a directory"
  | isDirectory => "Is a directory"
  | invalidArgument => "Invalid argument"
  | nameTooLong => "File name too long"
  | tooManyLinks => "Too many levels of symbolic links"
  | addressInUse => "Address already in use"
  | addressNotAvailable => "Cannot assign requested address"
  | networkUnreachable => "Network is unreachable"

end Errno

inductive Fault
  | system (e : Errno)
  /-- A NUL character in a path: no file can be named so. -/
  | nulInName
  /-- The content is no text. -/
  | notUtf8
  | refused (why : Text)
  deriving DecidableEq, Repr

namespace Fault

def message : Fault → Text
  | system e => e.text.toList ++ " (os error ".toList ++ Text.decimal e.number ++ ")".toList
  | nulInName => "file name contained an unexpected NUL byte".toList
  | notUtf8 => "stream did not contain valid UTF-8".toList
  | refused why => why

end Fault

end RpcGate
