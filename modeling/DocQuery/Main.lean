import DocQuery.CommandLine.Session

/-!
# The program

Reads the arguments, the input and the named files, and writes what the session
says.
-/

namespace DocQuery

namespace CommandLine

def ReadFault.ofError : IO.Error → ReadFault
  | .noFileOrDirectory _ _ _ => .notFound
  | .permissionDenied _ _ _ => .denied
  | .inappropriateType _ 20 _ => .notDirectory
  | .inappropriateType _ _ _ => .isDirectory
  | error => .other error.toString

def readBytes (path : String) : IO (Except ReadFault (List UInt8)) := do
  try
    let bytes ← IO.FS.readBinFile path
    return .ok bytes.toList
  catch error =>
    return .error (.ofError error)

/-- The file that a request names, read before the session starts. -/
def readNamed : Request → IO (String → Except ReadFault (List UInt8))
  | .run { config := some path, .. } => do
      let bytes ← readBytes path
      return fun _ => bytes
  | _ => return fun _ => .error .notFound

def Request.readsInput : Request → Bool
  | .run { command := .filter .., .. } => true
  | .run { command := .transitions .., .. } => true
  | _ => false

def readInput (request : Request) : IO (List UInt8) := do
  if request.readsInput then
    return (← (← IO.getStdin).readBinToEnd).toList
  else
    return []

def runProgram (arguments : List String) : IO UInt32 := do
  let request := Request.ofArguments arguments
  let files ← readNamed request
  let input ← readInput request
  let transcript := session { arguments, input, files }
  for line in transcript.errors do
    IO.eprintln line
  for line in transcript.output do
    IO.println line
  return transcript.status.toUInt32

end CommandLine

end DocQuery

def main (arguments : List String) : IO UInt32 :=
  DocQuery.CommandLine.runProgram arguments
