import Flowchart.Document
import Flowchart.Double.Numeral

/-!
# Command line arguments

A command is given by its name, with options and at most one file around the
name and behind it:

* `-v` and `--verbose` may stand anywhere and any number of times;
* `layout` takes `-d` or `--direction`, `--node-spacing` and
  `--rank-spacing`, each with a value and at most once, and `--undirected`.

The value of a long option follows behind an equals sign or as the next
argument, the value of `-d` also directly behind the letter. An argument
that looks like an option is no value for one. Behind `--` every argument is
a file.

Arguments that do not make a command are misuse, for which there is no
command at all.
-/

namespace Flowchart.CommandLine

/-- What is to be done with the input. -/
inductive Action where
  /-- Print the document as JSON. -/
  | parse
  /-- Read a JSON document and print flowchart text. -/
  | generate
  /-- Print flowchart text in canonical form. -/
  | format
  /-- Print the layout as JSON. -/
  | layout
  /-- Print the node ids in topological order. -/
  | sort
  deriving DecidableEq

/-- An option. -/
inductive Switch where
  | verbose
  | undirected
  | direction
  | nodeSpacing
  | rankSpacing
  deriving DecidableEq

/-- What has been chosen by options and file. -/
structure Choices where
  file : Option String := none
  undirected : Bool := false
  direction : Option Direction := none
  nodeSpacing : Option Float := none
  rankSpacing : Option Float := none

/-- A command: what to do, with what choices. -/
structure Command where
  action : Action
  choices : Choices := {}

namespace Action

/-- The name of each action. -/
def vocabulary : List (String × Action) :=
  [("parse", parse), ("generate", generate), ("format", format), ("layout", layout),
    ("sort", sort)]

/-- The action of a given name. -/
def ofName? (name : String) : Option Action :=
  (vocabulary.find? fun entry => entry.1 == name).map (·.2)

end Action

namespace Switch

/-- Whether the option comes with a value. -/
def takesValue : Switch → Bool
  | verbose | undirected => false
  | direction | nodeSpacing | rankSpacing => true

/-- The long names of options that every command has. -/
def common : List (String × Switch) := [("verbose", verbose)]

/-- The long names of the options of `layout` besides. -/
def ofLayout : List (String × Switch) :=
  [("undirected", undirected), ("direction", direction), ("node-spacing", nodeSpacing),
    ("rank-spacing", rankSpacing)]

/-- The option of a long name, for a command or ahead of it. -/
def ofName? (action : Option Action) (name : List Char) : Option Switch :=
  let known := if action = some .layout then common ++ ofLayout else common
  (known.find? fun entry => entry.1.toList == name).map (·.2)

/-- The option of a letter, for a command or ahead of it. -/
def ofLetter? (action : Option Action) (letter : Char) : Option Switch :=
  if letter = 'v' then some verbose
  else if letter = 'd' && action = some .layout then some direction
  else none

end Switch

namespace Choices

/-- Sets an option that stands for itself. `--undirected` must not come
twice. -/
def mark? (c : Choices) : Switch → Option Choices
  | .verbose => some c
  | .undirected => if c.undirected then none else some { c with undirected := true }
  | _ => none

/-- Sets an option to a value. It must not have one already. -/
def set? (c : Choices) (s : Switch) (value : List Char) : Option Choices :=
  match s with
  | .direction => do
    let d ← Direction.ofKeyword? (String.ofList value)
    if c.direction.isSome then none else some { c with direction := d }
  | .nodeSpacing => do
    let x ← Double.ofNumeral? value
    if c.nodeSpacing.isSome then none else some { c with nodeSpacing := x }
  | .rankSpacing => do
    let x ← Double.ofNumeral? value
    if c.rankSpacing.isSome then none else some { c with rankSpacing := x }
  | _ => none

/-- Sets the file. There must not be one already, and its name must not be
empty. -/
def open? (c : Choices) (name : List Char) : Option Choices :=
  if name.isEmpty || c.file.isSome then none else some { c with file := String.ofList name }

end Choices

/-- Whether an argument looks like an option. A single dash is a file. -/
def looksLikeSwitch : List Char → Bool
  | '-' :: _ :: _ => true
  | _ => false

/-- The part before the first equals sign, and the part behind it if there is
one. -/
def splitEquals : List Char → List Char × Option (List Char)
  | [] => ([], none)
  | '=' :: value => ([], some value)
  | c :: rest => (c :: (splitEquals rest).1, (splitEquals rest).2)

/-- Takes a long option, without its dashes. An option that still needs a
value is handed back. -/
def takeLong? (action : Option Action) (c : Choices) (text : List Char) :
    Option (Choices × Option Switch) := do
  let (name, value) := splitEquals text
  let s ← Switch.ofName? action name
  match value with
  | some value => return (← c.set? s value, none)
  | none => if s.takesValue then return (c, some s) else return (← c.mark? s, none)

/-- Takes option letters, without their dash. An option that still needs a
value is handed back. -/
def takeLetters? (action : Option Action) (c : Choices) :
    List Char → Option (Choices × Option Switch)
  | [] => some (c, none)
  | letter :: rest => do
    let s ← Switch.ofLetter? action letter
    if s.takesValue then
      match rest with
      | [] => return (c, some s)
      | '=' :: value => return (← c.set? s value, none)
      | value => return (← c.set? s value, none)
    else takeLetters? action (← c.mark? s) rest

/-- Takes an argument that looks like an option. -/
def takeSwitch? (action : Option Action) (c : Choices) :
    List Char → Option (Choices × Option Switch)
  | '-' :: '-' :: text => takeLong? action c text
  | '-' :: letters => takeLetters? action c letters
  | _ => none

/-- Takes the arguments behind the name of a command. -/
def takeArguments? (action : Action) (c : Choices) : List (List Char) → Option Choices
  | [] => some c
  | ['-', '-'] :: files => files.foldlM Choices.open? c
  | arg :: rest =>
    if looksLikeSwitch arg then
      match takeSwitch? (some action) c arg, rest with
      | some (c, none), rest => takeArguments? action c rest
      | some (c, some s), value :: rest =>
        if looksLikeSwitch value then none
        else
          match c.set? s value with
          | some c => takeArguments? action c rest
          | none => none
      | _, _ => none
    else
      match c.open? arg with
      | some c => takeArguments? action c rest
      | none => none
termination_by args => args.length

/-- Takes all arguments: options for all commands, the name of a command, and
what belongs to it. -/
def takeAll? : List (List Char) → Option Command
  | [] => none
  | arg :: rest =>
    if looksLikeSwitch arg then
      match takeSwitch? none {} arg with
      | some (_, none) => takeAll? rest
      | _ => none
    else do
      let action ← Action.ofName? (String.ofList arg)
      return ⟨action, ← takeArguments? action {} rest⟩

/-- **The command that the arguments give**, if they give one. -/
def Command.ofArguments? (arguments : List String) : Option Command :=
  takeAll? (arguments.map String.toList)

end Flowchart.CommandLine
