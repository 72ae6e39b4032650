/-
The arguments of the command line.  They are read from left to right; the
first one that is wrong, or that asks for help, decides.
-/
import TableScribe.Text.Segments

namespace TableScribe.Command

/-- What a command line asks for. -/
inductive Request
  | generate (input output : String) (options : List (String × String))
  | check (input : String)
  | kinds
deriving DecidableEq, Repr

/-- Why no request comes out of a command line. -/
inductive Stop
  /-- The arguments are wrong. -/
  | usage
  /-- Help is asked for. -/
  | help
  /-- The version is asked for. -/
  | version
deriving DecidableEq, Repr

/-- The names of the subcommands. -/
inductive Name
  | generate
  | check
  | kinds
deriving DecidableEq, Repr

def Name.ofText? (text : String) : Option Name :=
  if text = "generate" then some .generate
  else if text = "check" then some .check
  else if text = "kinds" then some .kinds
  else none

/-- Options with a value. -/
inductive Key
  | input
  | output
  | set
deriving DecidableEq, Repr

def Name.keys : Name → List Key
  | generate => [.input, .output, .set]
  | check => [.input]
  | kinds => []

def Key.long : Key → List Char
  | input => "input".toList
  | output => "output".toList
  | set => "set".toList

def Key.letter? : Key → Option Char
  | input => some 'i'
  | output => some 'o'
  | set => none

/-- What a subcommand has been given so far. -/
structure Given where
  verbose : Bool
  input : Option String
  output : Option String
  options : List (String × String)

def Given.nothing : Given := ⟨false, none, none, []⟩

/-- Takes the flag for a detailed log, which may come once. -/
def Given.takeVerbose (given : Given) : Except Stop Given :=
  if given.verbose then .error .usage else .ok { given with verbose := true }

/-- Takes the value of an option.  A path may come once and is not empty; a
setting has an equals sign between its key and its value. -/
def Given.take (given : Given) (key : Key) (value : String) : Except Stop Given :=
  match key with
  | .input =>
    if given.input.isSome || value.isEmpty then .error .usage
    else .ok { given with input := some value }
  | .output =>
    if given.output.isSome || value.isEmpty then .error .usage
    else .ok { given with output := some value }
  | .set =>
    match Text.splitFirst '=' value.toList with
    | some (name, rest) =>
      .ok { given with options := given.options ++ [(String.ofList name, String.ofList rest)] }
    | none => .error .usage

/-- An argument as a reader of options sees it. -/
inductive Shape
  /-- Two dashes alone: only positional arguments follow. -/
  | escape
  /-- A long option, with the value attached to it. -/
  | long (name : List Char) (value : Option String)
  /-- Letters after one dash. -/
  | letters (cluster : List Char)
  | plain

def shape (argument : String) : Shape :=
  match argument.toList with
  | ['-', '-'] => .escape
  | '-' :: '-' :: rest =>
    match Text.splitFirst '=' rest with
    | some (name, value) => .long name (some (String.ofList value))
    | none => .long rest none
  | '-' :: c :: rest => .letters (c :: rest)
  | _ => .plain

/-- What an argument leaves to be done: nothing, or to find the value of an
option in the next argument. -/
inductive Pending
  | nothing
  | value (key : Key)

/-- Reads letters after one dash.  The letters after an option are its value. -/
def takeLetters (keys : List Key) : List Char → Given → Except Stop (Given × Pending)
  | [], given => .ok (given, .nothing)
  | letter :: rest, given =>
    if letter = 'v' then do
      let next ← given.takeVerbose
      takeLetters keys rest next
    else if letter = 'h' then
      .error .help
    else
      match keys.find? fun key => key.letter? == some letter with
      | none => .error .usage
      | some key =>
        match rest with
        | [] => .ok (given, .value key)
        | '=' :: value => do
          let next ← given.take key (String.ofList value)
          return (next, .nothing)
        | value => do
          let next ← given.take key (String.ofList value)
          return (next, .nothing)

def takeLong (keys : List Key) (name : List Char) (value : Option String) (given : Given) :
    Except Stop (Given × Pending) :=
  if name = "verbose".toList then
    if value.isSome then .error .usage
    else do
      let next ← given.takeVerbose
      return (next, .nothing)
  else if name = "help".toList then
    .error (if value.isSome then .usage else .help)
  else
    match keys.find? fun key => key.long == name, value with
    | none, _ => .error .usage
    | some key, some text => do
      let next ← given.take key text
      return (next, .nothing)
    | some key, none => .ok (given, .value key)

def takeArguments (keys : List Key) : List String → Given → Pending → Except Stop Given
  | [], given, .nothing => .ok given
  | [], _, .value _ => .error .usage
  | argument :: rest, given, pending =>
    match shape argument, pending with
    | .plain, .value key => do
      let next ← given.take key argument
      takeArguments keys rest next .nothing
    | .plain, .nothing => .error .usage
    | _, .value _ => .error .usage
    | .escape, .nothing => if rest.isEmpty then .ok given else .error .usage
    | .long name value, .nothing => do
      let (next, left) ← takeLong keys name value given
      takeArguments keys rest next left
    | .letters cluster, .nothing => do
      let (next, left) ← takeLetters keys cluster given
      takeArguments keys rest next left

def Name.request (name : Name) (given : Given) : Except Stop Request :=
  match name, given.input, given.output with
  | .generate, some input, some output => .ok (.generate input output given.options)
  | .check, some input, _ => .ok (.check input)
  | .kinds, _, _ => .ok .kinds
  | _, _, _ => .error .usage

/-- What follows the word `help`: at most one name of a subcommand, or the
word itself. -/
def helpTopic : List String → Stop
  | [] => .help
  | [topic] => if (Name.ofText? topic).isSome || topic = "help" then .help else .usage
  | _ => .usage

def rootLetters : List Char → Bool → Except Stop Bool
  | [], verbose => .ok verbose
  | letter :: rest, verbose =>
    if letter = 'v' then
      if verbose then .error .usage else rootLetters rest true
    else if letter = 'h' then .error .help
    else if letter = 'V' then .error .version
    else .error .usage

/-- Reads a command line.  Flags may come before the subcommand. -/
def parseFrom : List String → Bool → Except Stop Request
  | [], _ => .error .usage
  | argument :: rest, verbose =>
    match shape argument with
    | .plain =>
      if argument = "help" then
        .error (helpTopic rest)
      else
        match Name.ofText? argument with
        | none => .error .usage
        | some name => do
          let given ← takeArguments name.keys rest Given.nothing .nothing
          name.request given
    | .escape => .error .usage
    | .letters cluster => do
      let next ← rootLetters cluster verbose
      parseFrom rest next
    | .long name value =>
      if value.isSome then .error .usage
      else if name = "verbose".toList then
        if verbose then .error .usage else parseFrom rest true
      else if name = "help".toList then .error .help
      else if name = "version".toList then .error .version
      else .error .usage

def parse (arguments : List String) : Except Stop Request := parseFrom arguments false

end TableScribe.Command
