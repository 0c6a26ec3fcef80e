import DocQuery.QueryError

/-!
# Command errors

What stops a command: its configuration, its input, or its query.
-/

namespace DocQuery

namespace CommandLine

inductive ReadFault
  | notFound
  | denied
  | notDirectory
  | isDirectory
  | notText
  | other (reason : String)
deriving DecidableEq

def ReadFault.message : ReadFault → String
  | notFound => "No such file or directory (os error 2)"
  | denied => "Permission denied (os error 13)"
  | notDirectory => "Not a directory (os error 20)"
  | isDirectory => "Is a directory (os error 21)"
  | notText => "stream did not contain valid UTF-8"
  | other reason => reason

/-- What stops a command. -/
inductive CommandError
  | configUnread (fault : ReadFault)
  | configMalformed
  | inputUnread (fault : ReadFault)
  | jsonMalformed
  | currentMissing
  | query (error : QueryError)
deriving DecidableEq

namespace CommandError

def code : CommandError → String
  | configUnread _ => "QUERIFY_CLI_CONFIG_ERROR"
  | configMalformed => "QUERIFY_CLI_CONFIG_ERROR"
  | inputUnread _ => "QUERIFY_CLI_IO_ERROR"
  | jsonMalformed => "QUERIFY_CLI_IO_ERROR"
  | currentMissing => "QUERIFY_CLI_IO_ERROR"
  | query _ => "QUERIFY_CLI_QUERY_ERROR"

def message : CommandError → String
  | configUnread fault => "Failed to read config: " ++ fault.message
  | configMalformed => "Invalid config: malformed configuration"
  | inputUnread fault => fault.message
  | jsonMalformed => "JSON error: malformed JSON"
  | currentMissing => "Missing \"current\" document"
  | query error => "[" ++ error.code ++ "] " ++ error.message

def display (error : CommandError) : String :=
  error.code ++ ": " ++ error.message

end CommandError

end CommandLine

end DocQuery
