import DeviceRegex.Program.InfoText
import DeviceRegex.Program.Listing

/-!
# The command line

The command compiles one pattern and prints its listing, or its facts as JSON text.
Arguments are options and the pattern in any order; after `--` only the pattern may
follow.
-/
namespace DeviceRegex.CommandLine

/-- What can be switched on. -/
inductive Switch where
  | flag (f : Flag)
  | nonCapture
  | json
deriving DecidableEq, Repr

/-- The switch with a long name. -/
def longSwitch? : String → Option Switch
  | "--multiline" => some (.flag .multiline)
  | "--dotall" => some (.flag .dotall)
  | "--ignorecase" => some (.flag .ignorecase)
  | "--ascii" => some (.flag .ascii)
  | "--ext-newline" => some (.flag .extNewline)
  | "--non-capture" => some .nonCapture
  | "--json" => some .json
  | _ => none

/-- The switch with a short name. -/
def shortSwitch? : Char → Option Switch
  | 'm' => some (.flag .multiline)
  | 'd' => some (.flag .dotall)
  | 'i' => some (.flag .ignorecase)
  | 'a' => some (.flag .ascii)
  | _ => none

/-- What the arguments say so far. -/
structure Options where
  pattern? : Option String
  switches : List Switch
  threads : List Size

namespace Options

/-- Nothing is said. -/
def initial : Options := ⟨none, [], []⟩

/-- Turn a switch on, which is allowed once. -/
def turnOn (o : Options) (s : Switch) : Option Options :=
  if s ∈ o.switches then none else some { o with switches := s :: o.switches }

/-- Set the pattern, which is allowed once. -/
def setPattern (o : Options) (pattern : String) : Option Options :=
  if o.pattern?.isSome then none else some { o with pattern? := some pattern }

/-- Add numbers of threads with commas between them. -/
def addThreads (o : Options) (value : List Char) : Option Options := do
  let counts ← (Text.pieces ',' value).mapM (Text.readDecimal? Size.max)
  return { o with threads := o.threads ++ counts.map Size.saturate }

/-- The flags that are switched on. -/
def flags (o : Options) : Flags :=
  o.switches.foldl (fun flags s => match s with | .flag f => flags.set f | _ => flags) .none

/-- The capture mode. -/
def capture (o : Options) : CaptureMode :=
  if .nonCapture ∈ o.switches then .nonCapture else .extract

/-- The numbers of threads to show; some usual ones if none are given. -/
def shownThreads (o : Options) : List Size :=
  if o.threads = [] then [1, 32, 1024, 65536] else o.threads

end Options

/-- Read an argument with short switches. The letter `t` takes the rest of the argument
as its value, or the argument that follows; the answer tells whether it does. -/
def readShort (o : Options) : List Char → Option (Options × Bool)
  | [] => some (o, false)
  | ['t'] => some (o, true)
  | 't' :: '=' :: value => do return (← o.addThreads value, false)
  | 't' :: value => do return (← o.addThreads value, false)
  | c :: rest => do readShort (← o.turnOn (← shortSwitch? c)) rest

/-- Read the arguments. -/
def readArguments (o : Options) : List String → Option Options
  | [] => some o
  | argument :: rest =>
    match argument.toList with
    | ['-', '-'] => rest.foldlM Options.setPattern o
    | '-' :: '-' :: 't' :: 'h' :: 'r' :: 'e' :: 'a' :: 'd' :: 's' :: '=' :: value => do
      readArguments (← o.addThreads value) rest
    | ['-', '-', 't', 'h', 'r', 'e', 'a', 'd', 's'] => readValue o rest
    | '-' :: '-' :: _ => do readArguments (← o.turnOn (← longSwitch? argument)) rest
    | '-' :: c :: letters => do
      let (o, takesNext) ← readShort o (c :: letters)
      if takesNext then readValue o rest else readArguments o rest
    | _ => do readArguments (← o.setPattern argument) rest
where
  /-- Read the numbers of threads in the next argument, and the arguments after it. -/
  readValue (o : Options) : List String → Option Options
    | [] => none
    | value :: rest => do readArguments (← o.addThreads value.toList) rest

/-- What a run prints, and its exit code. -/
structure Result where
  exitCode : UInt8
  output : String
  errors : String
deriving DecidableEq, Repr

/-- A text whose lines after the first one are indented under it. -/
def indent (text : String) : String :=
  String.ofList (text.toList.flatMap fun c => if c = '\n' then "\n    ".toList else [c])

/-- The report of a pattern that has no program. -/
def failureReport (pattern : String) (failure : Failure) : String :=
  "Error: compiling '" ++ pattern ++ "'\n\nCaused by:\n    " ++ indent failure.message ++ "\n"

/-- The report of arguments that make no sense. -/
def usage : String := "error: invalid arguments\n\nUsage: [OPTIONS] <PATTERN>\n"

/-- Run the command on its arguments. `site` is the call site that failures name. -/
def run (site : CallSite) (arguments : List String) : Result :=
  match readArguments .initial arguments with
  | none => ⟨2, "", usage⟩
  | some o =>
    match o.pattern? with
    | none => ⟨2, "", usage⟩
    | some pattern =>
      match Program.create pattern o.flags o.capture site with
      | .error failure => ⟨1, "", failureReport pattern failure⟩
      | .ok p =>
        if .json ∈ o.switches then ⟨0, p.info.prettyText ++ "\n", ""⟩
        else ⟨0, p.listing o.shownThreads, ""⟩

end DeviceRegex.CommandLine
