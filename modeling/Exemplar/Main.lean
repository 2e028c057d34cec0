import Exemplar.CommandLine.Run

namespace Exemplar.CommandLine

def decoded (bytes : ByteArray) : Contents :=
  match String.fromUTF8? bytes with
  | some text => .text text
  | none => .undecodable

/-- This action reads a file of the disk. -/
def readDisk (path : String) : IO (Except FileFailure Contents) := do
  try
    pure (.ok (decoded (← IO.FS.readBinFile path)))
  catch error =>
    pure (.error (.inaccessible error.toString))

/-- This action looks whether a path leads to a directory of the disk. -/
def isDiskDirectory (path : String) : IO Bool := do
  try
    (← IO.FS.realPath path).isDir
  catch _ =>
    pure false

/-- This action writes a file of the disk. -/
def writeDisk (path text : String) : IO (Except FileFailure Unit) := do
  try
    pure (.ok (← IO.FS.writeFile path text))
  catch error =>
    pure (.error (.inaccessible error.toString))

/-- The disk surrounds the program. -/
def disk : Surroundings IO where
  workingDirectory := do pure (← IO.currentDir).toString
  standardInput := do pure (decoded (← (← IO.getStdin).readBinToEnd))
  read := readDisk
  isDirectory := isDiskDirectory
  write := writeDisk

/-- This is the message about arguments that cannot be read. -/
def usageText : String :=
  "Usage: exemplar [OPTIONS] [PATH] [OUTPUT]\n"

/-- This function words an abort. -/
def abortText : Abort → String
  | .undecodable => "the bytes encode no text"
  | .integerTooLong => "an integer has too many digits"
  | .loneSurrogate => "half of a surrogate pair stands alone"
  | .program => "the program looked for something that is missing"
  | .file (.inaccessible reason) => reason
  | .file .notFound => "no such file or directory"
  | .file .notADirectory => "not a directory"
  | .file .isADirectory => "is a directory"
  | .file .nameTooLong => "file name too long"
  | .file .nulCharacter => "a path holds a null character"

/-- This action shows the outcome of a run. -/
def report : Outcome → IO UInt32
  | .usage => do
      IO.eprint usageText
      pure 2
  | .finished exitCode output messages => do
      IO.eprint messages
      IO.print output
      pure exitCode.toUInt32
  | .aborted abort messages => do
      IO.eprint messages
      IO.eprint ("Error: " ++ abortText abort ++ "\n")
      pure 1

end Exemplar.CommandLine

/-- The program runs a command on the disk. -/
def main (arguments : List String) : IO UInt32 := do
  Exemplar.CommandLine.report
    (← Exemplar.CommandLine.run Exemplar.CommandLine.disk arguments)
