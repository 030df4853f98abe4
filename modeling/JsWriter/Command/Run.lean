import JsWriter.Command.Filter
import JsWriter.Script.Replay

/-!
# The command

The command renders one build script, from the file named last or from standard input. `Command.plan`
reads the arguments, `Command.answer` says what is printed once the script's bytes are known or known
to be unreadable, and `Command.run` is the whole command, the function `main`.

What is behind a path is up to the system: one path may name a file in the directory of the command,
another one a device or standard input itself. `System` is that part of it.
-/
namespace JsWriter

/-- What reading comes to: bytes, or the system's words for why there are none. -/
abbrev Reading := Except String ByteArray

/-- Files by their names. -/
abbrev Files := List (String × ByteArray)

/-- How a system reads a path for a command that was started among files and with an input. -/
structure System where
  read : (files : Files) → (stdin : Reading) → (path : String) → Reading

namespace Command

/-- Where the script comes from. -/
inductive Source where
  | stdin
  | file (path : String)
  deriving DecidableEq, Repr

def Source.name : Source → String
  | stdin => "stdin"
  | file path => path

/-- What the arguments ask for. -/
inductive Plan where
  | help
  | render (source : Source)
  deriving DecidableEq, Repr

def isHelp (arg : String) : Bool := arg = "-h" || arg = "--help"

/-- Help if any argument asks for it; otherwise the last argument is the path of the script. -/
def plan (args : List String) : Plan :=
  if args.any isHelp then .help
  else
    match args.getLast? with
    | none => .render .stdin
    | some path => .render (.file path)

/-- What a run prints, and its exit code. -/
structure Outcome where
  code : UInt32
  stdout : String
  stderr : String
  deriving DecidableEq, Repr

def usage : String :=
  "Usage: jsb [script.json]\n" ++
    "  Reads a JSON build script from file or stdin, emits JavaScript to stdout.\n"

def help : Outcome := ⟨0, "", usage⟩

/-- Why bytes that aren't UTF-8 can't be read. -/
def notText : String := "stream did not contain valid UTF-8"

/-- The text whose UTF-8 the bytes are. -/
def decode (bytes : ByteArray) : Except String String :=
  match String.fromUTF8? bytes with
  | some text => .ok text
  | none => .error notText

/-- The outcome for a script whose bytes were read, or couldn't be. -/
def answer (filter : LogFilter) (source : Source) (reading : Reading) : Outcome :=
  match reading.bind decode with
  | .error reason => ⟨1, "", "Cannot read " ++ source.name ++ ": " ++ reason ++ "\n"⟩
  | .ok text =>
    let rendering := render text
    let log := filter.log rendering.events
    match rendering.value with
    | .ok code => ⟨0, code, log⟩
    | .error error => ⟨1, "", log ++ error.message text ++ "\n"⟩

/-- What a run of the command finds: the setting of its log is that of `JSB_LOG`. -/
structure Setting where
  args : List String
  stdin : Reading
  files : Files
  log : Option String
  system : System

/-- What is read from a source. -/
def Setting.read (setting : Setting) : Source → Reading
  | .stdin => setting.stdin
  | .file path => setting.system.read setting.files setting.stdin path

/-- A run of the command (`main`). -/
def run (setting : Setting) : Outcome :=
  match plan setting.args with
  | .help => help
  | .render source => answer (.ofSetting setting.log) source (setting.read source)

end Command
end JsWriter
