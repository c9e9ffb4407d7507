/-!
# What goes wrong in an SSH session

The faults of a session, each with the text it is reported by: where it arose, its number there, and
what is known of it.
-/

namespace Rollout.Ssh

inductive Fault where
  /-- The other side does not speak the protocol. -/
  | noBanner
  /-- No further channel is granted to a command, or to a file. -/
  | channelRefused
  | startupRefused
  /-- A command or the file service is refused on a channel. -/
  | execRefused
  | sftpRefused
  /-- Text that cannot be sent. -/
  | nulInCommand
  | nulInPath
  /-- A status of the file service. -/
  | status (code : Nat)
  deriving Repr, DecidableEq

/-- What a status of the file service means. -/
def statusText (code : Nat) : String :=
  match code with
  | 1 => "end of file"
  | 2 => "no such file"
  | 3 => "permission denied"
  | 4 => "failure"
  | 5 => "bad message"
  | 6 => "no connection"
  | 7 => "connection lost"
  | 8 => "operation unsupported"
  | 9 => "invalid handle"
  | 10 => "no such path"
  | 11 => "file already exists"
  | 12 => "file is write protected"
  | 13 => "no media available"
  | 14 => "no space on filesystem"
  | 15 => "quota exceeded"
  | 16 => "unknown principal"
  | 17 => "lock conflict"
  | 18 => "directory not empty"
  | 19 => "not a directory"
  | 20 => "invalid filename"
  | 21 => "link loop"
  | _ => "unknown error"

namespace Fault

/-- What is known of a fault. -/
def text : Fault → String
  | .noBanner => "Failed getting banner"
  | .channelRefused => "Channel open failure (administratively prohibited)"
  | .startupRefused => "Unable to startup channel"
  | .execRefused => "Unable to complete request for channel-process-startup"
  | .sftpRefused => "Unable to request SFTP subsystem"
  | .nulInCommand => "provided data contained a nul byte and could not be used as as string"
  | .nulInPath => "path provided contains a 0 byte"
  | .status code => statusText code

/-- Where a fault arose, with its number. -/
def source : Fault → String
  | .noBanner => "Session(-13)"
  | .channelRefused | .startupRefused | .sftpRefused => "Session(-21)"
  | .execRefused => "Session(-22)"
  | .nulInCommand | .nulInPath => "Session(-34)"
  | .status code => "SFTP(" ++ toString code ++ ")"

def message (f : Fault) : String := "[" ++ f.source ++ "] " ++ f.text

end Fault

end Rollout.Ssh
