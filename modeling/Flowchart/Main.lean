import Flowchart.CommandLine.Run

/-!
# The program

Takes the command from the arguments, reads its input, and prints what the
command comes to.
-/

namespace Flowchart.CommandLine

/-- The number of a system error, which may be reported with its sign turned. -/
def errorNumber (code : UInt32) : Nat :=
  if code.toNat < Nat.pow 2 31 then code.toNat else Nat.pow 2 32 - code.toNat

/-- The reason for which the system refuses to read. -/
def reasonOf (e : IO.Error) : Unreadable :=
  match e with
  | .noFileOrDirectory .. => .missing
  | .permissionDenied .. => .forbidden
  | .inappropriateType _ code _ => if errorNumber code = 20 then .notDirectory else .directory
  | .invalidArgument _ code _ =>
    if errorNumber code = 36 then .nameTooLong else .refused (toString e) (errorNumber code)
  | other => .refused (toString other) 5

/-- What comes of reading a file, or standard input if none is given. -/
def readInput (file : Option String) : IO (Except Unreadable ByteArray) := do
  try
    match file with
    | some path => return .ok (← IO.FS.readBinFile path)
    | none =>
      let input ← IO.getStdin
      let mut bytes := ByteArray.empty
      let mut more := true
      while more do
        let chunk ← input.read 65536
        bytes := bytes ++ chunk
        more := !chunk.isEmpty
      return .ok bytes
  catch e => return .error (reasonOf e)

/-- How the program is used. -/
def usage : String :=
  "usage: flowchart [-v] (parse | generate | format | layout | sort) [FILE]\n" ++
  "layout also takes [-d DIRECTION] [--node-spacing N] [--rank-spacing N] [--undirected]\n"

end Flowchart.CommandLine

open Flowchart CommandLine

def main (arguments : List String) : IO UInt32 := do
  match Command.ofArguments? arguments with
  | none =>
    (← IO.getStderr).putStr usage
    return 2
  | some command =>
    match command.run (← readInput command.choices.file) with
    | .printed text =>
      IO.print text
      return 0
    | .failed text =>
      (← IO.getStderr).putStr text
      return 1
