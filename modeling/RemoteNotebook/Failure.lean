import RemoteNotebook.Endpoint.Host

/-!
What can go wrong on this side of the connection, and how it is reported: as a message, and as a
message to the user. A database that fails or cannot be reached is no failure but a reply.
-/

namespace RemoteNotebook

inductive FileFault where
  | notFound
  | notADirectory
  | isDirectory
  | nameTooLong
  | nulInName
  | notText
  /-- The path to a file cannot be followed to its end. -/
  | unresolved (text : String)
  | other (text : String)
  deriving DecidableEq, Repr

def FileFault.message : FileFault → String
  | notFound => "No such file or directory (os error 2)"
  | notADirectory => "Not a directory (os error 20)"
  | isDirectory => "Is a directory (os error 21)"
  | nameTooLong => "File name too long (os error 36)"
  | nulInName => "file name contained an unexpected NUL byte"
  | notText => "stream did not contain valid UTF-8"
  | unresolved text => text
  | other text => text

inductive Failure where
  /-- The client that sends requests could not be built. -/
  | client (detail : String)
  | file (fault : FileFault)
  | endpoint (fault : Endpoint.Fault)
  /-- A text is not in the form that it should have. -/
  | format (detail : String)
  | settings (reason : String)
  | input (reason : String)
  deriving DecidableEq, Repr

namespace Failure

def message : Failure → String
  | client detail => "HTTP client error: " ++ detail
  | file fault => "IO error: " ++ fault.message
  | endpoint fault => "Invalid endpoint URL: " ++ fault.message
  | format detail => "Serialization error: " ++ detail
  | settings reason => "Configuration error: " ++ reason
  | input reason => "Invalid input: " ++ reason

def userMessage : Failure → String
  | client detail => "Could not set up the HTTP client. Details: " ++ detail
  | file fault => "File system error. Check permissions. Details: " ++ fault.message
  | endpoint fault => "The database endpoint is not a valid URL: " ++ fault.message
  | format detail => "Data format error: " ++ detail
  | settings reason => "Configuration issue: " ++ reason
  | input reason => "Invalid input: " ++ reason

end Failure
end RemoteNotebook
