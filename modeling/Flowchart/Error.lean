import Flowchart.Document.Exchange

/-!
# Errors

What can go wrong around a diagram: input that cannot be read, a JSON text
that is not that of a document, and a word that names no direction. Reading
flowchart text, laying out and sorting never fail.
-/

namespace Flowchart

/-- Why input cannot be had as text. -/
inductive Unreadable where
  /-- The bytes are not UTF-8. -/
  | notText
  /-- The system refuses, for a reason and with a number. -/
  | refused (reason : String) (code : Nat)
  deriving DecidableEq

namespace Unreadable

/-- There is no such file. -/
def missing : Unreadable := refused "No such file or directory" 2

/-- The file must not be read. -/
def forbidden : Unreadable := refused "Permission denied" 13

/-- The path goes through something that is no directory. -/
def notDirectory : Unreadable := refused "Not a directory" 20

/-- The path leads to a directory. -/
def directory : Unreadable := refused "Is a directory" 21

/-- A name in the path is too long. -/
def nameTooLong : Unreadable := refused "File name too long" 36

/-- The reason in words. -/
def message : Unreadable → String
  | notText => "stream did not contain valid UTF-8"
  | refused reason code => reason ++ " (os error " ++ toString code ++ ")"

end Unreadable

/-- An error of the library. -/
inductive Error where
  | unreadableFile (path : String) (reason : Unreadable)
  | unreadableInput (reason : Unreadable)
  | json (error : Json.Error)
  | unknownDirection (word : String)

namespace Error

/-- The error in words. -/
def message : Error → String
  | unreadableFile path reason => "failed to read " ++ path ++ ": " ++ reason.message
  | unreadableInput reason => "failed to read stdin: " ++ reason.message
  | json error => "JSON error: " ++ String.ofList error.message
  | unknownDirection word => "unknown direction: " ++ word

end Error

/-- The direction that a word stands for. -/
def Direction.ofWord (word : String) : Except Error Direction :=
  match Direction.ofKeyword? word with
  | some d => .ok d
  | none => .error (.unknownDirection word)

/-- The document of a JSON text. -/
def Document.ofJson (text : String) : Except Error Document :=
  (Document.ofJsonText text).mapError .json

end Flowchart
