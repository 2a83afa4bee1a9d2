import RpcGate.Text.Quoted
import RpcGate.Files.System

/-!
# What stops a start

Errors of credentials, of the cookie and of the settings that describe them.
Two classes are told apart by callers: malformed credentials and cookies
that could not be provisioned.
-/

namespace RpcGate

inductive EntryFault
  | colonCount
  | dollarCount
  | emptyUser
  | emptyHash
  | badHash
  deriving DecidableEq, Repr

namespace EntryFault

def reason : EntryFault → Text
  | colonCount => "expected exactly one ':' separating user and salt$hash".toList
  | dollarCount => "expected exactly one '$' separating salt and hash".toList
  | emptyUser => "empty username".toList
  | emptyHash => "empty hash".toList
  | badHash => "hash must be 64 hex characters".toList

end EntryFault

inductive AuthError
  | malformed (fault : EntryFault)
  | malformedLine (path : Path) (line : Nat) (fault : EntryFault)
  | unreadableFile (path : Path) (fault : Fault)
  | cookieNotWritten (path : Path) (fault : Fault)
  /-- The file has other bits, by the number that was reported for them. -/
  | cookieMode (path : Path) (expected : Mode) (actual : Nat)
  | badPermissions (value : Text)
  | badWhitelist (value : Text)
  deriving DecidableEq, Repr

namespace AuthError

def message : AuthError → Text
  | malformed fault => "invalid credential format: ".toList ++ fault.reason
  | malformedLine path line fault =>
    "invalid credential format in ".toList ++ path ++ ':' :: Text.decimal line ++ ": ".toList
      ++ fault.reason
  | unreadableFile path fault =>
    "unable to read credential file ".toList ++ path ++ ": ".toList ++ fault.message
  | cookieNotWritten path fault =>
    "unable to write cookie file ".toList ++ path ++ ": ".toList ++ fault.message
  | cookieMode path expected actual =>
    "cookie file ".toList ++ path ++ " has mode ".toList ++ Text.octal4 actual
      ++ ", expected ".toList ++ expected.show4
  | badPermissions value =>
    "invalid -rpccookieperms value ".toList ++ Text.quoted value
      ++ "; expected an octal mode up to 7777".toList
  | badWhitelist value =>
    "invalid -rpcwhitelist value: ".toList ++ Text.quoted value
      ++ " is missing ':' between user and methods".toList

/-- The class of malformed credentials. -/
def isCredential : AuthError → Bool
  | malformed _ | malformedLine .. | unreadableFile .. => true
  | _ => false

def isCookie : AuthError → Bool
  | cookieNotWritten .. | cookieMode .. => true
  | _ => false

def cause? : AuthError → Option Fault
  | unreadableFile _ fault | cookieNotWritten _ fault => some fault
  | _ => none

end AuthError

end RpcGate
