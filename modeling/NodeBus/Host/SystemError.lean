/-!
# Failures of system calls

Why the system refuses a call, and its words for it.
-/
namespace NodeBus

inductive SystemError where
  | notFound
  | notDirectory
  | isDirectory
  | alreadyExists
  | nameTooLong
  | notUtf8
  | noDevice
  | nulInPath
  | nulInSocketPath
  | socketPathTooLong
  | abstractNameTooLong
  | invalidArgument
  | addressNotAvailable
  | addressInUse
  | other (message : String)
  deriving DecidableEq, Repr

def SystemError.message : SystemError → String
  | .notFound => "No such file or directory (os error 2)"
  | .notDirectory => "Not a directory (os error 20)"
  | .isDirectory => "Is a directory (os error 21)"
  | .alreadyExists => "File exists (os error 17)"
  | .nameTooLong => "File name too long (os error 36)"
  | .notUtf8 => "stream did not contain valid UTF-8"
  | .noDevice => "No such device or address (os error 6)"
  | .nulInPath => "file name contained an unexpected NUL byte"
  | .nulInSocketPath => "paths must not contain interior null bytes"
  | .socketPathTooLong => "path must be shorter than SUN_LEN"
  | .abstractNameTooLong => "abstract socket name must be shorter than SUN_LEN"
  | .invalidArgument => "Invalid argument (os error 22)"
  | .addressNotAvailable => "Cannot assign requested address (os error 99)"
  | .addressInUse => "Address already in use (os error 98)"
  | .other message => message

end NodeBus
