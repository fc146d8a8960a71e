import FrontEnd.CommandLine.Run

namespace FrontEnd

/-- Reads a file as text. A path through a plain file is refused by name when it is opened, a
directory without a name when it is read. -/
def readSource (name : String) : IO (Except ReadFailure Text) := do
  try
    return Text.ofBytes (← IO.FS.readBinFile name)
  catch
    | .noFileOrDirectory .. => return .error .notFound
    | .inappropriateType (some _) .. => return .error .notDirectory
    | .inappropriateType none .. => return .error .isDirectory
    | .permissionDenied .. => return .error (.other "Permission denied (os error 13)")
    | problem => return .error (.other (toString problem))

def readSources (names : List String) : IO (List (String × Except ReadFailure Text)) :=
  names.mapM fun name => do return (name, ← readSource name)

def Request.files : Request → List String
  | .compile options => options.files
  | _ => []

def lookUpSource (sources : List (String × Except ReadFailure Text)) (name : String) :
    Except ReadFailure Text :=
  (sources.lookup name).getD (.error .notFound)

end FrontEnd

open FrontEnd

def main (arguments : List String) : IO UInt32 := do
  match Arguments.read arguments with
  | none =>
      (← IO.getStderr).putStr helpText
      return 2
  | some request =>
      let given := (← IO.getEnv "RUST_LOG").bind Level.ofName?
      let sources ← readSources request.files
      let output := request.run given (lookUpSource sources)
      (← IO.getStderr).putStr output.stderr
      (← IO.getStdout).putStr output.stdout
      return UInt32.ofNat output.status
