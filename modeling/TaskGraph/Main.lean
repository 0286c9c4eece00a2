/-
Module: TaskGraph.Main
Purpose: The command on the files, the environment and the streams of a machine.
Main exports:
  main
-/
import TaskGraph.CommandLine

namespace TaskGraph.Machine

/-! ### Files -/

/-- The number and the wording of an error of the machine. -/
def detail : IO.Error → Nat × String
  | .alreadyExists _ code text => (code.toNat, text)
  | .otherError code text => (code.toNat, text)
  | .resourceBusy code text => (code.toNat, text)
  | .resourceVanished code text => (code.toNat, text)
  | .unsupportedOperation code text => (code.toNat, text)
  | .hardwareFault code text => (code.toNat, text)
  | .unsatisfiedConstraints code text => (code.toNat, text)
  | .illegalOperation code text => (code.toNat, text)
  | .protocolError code text => (code.toNat, text)
  | .timeExpired code text => (code.toNat, text)
  | .interrupted _ code text => (code.toNat, text)
  | .noFileOrDirectory _ code text => (code.toNat, text)
  | .invalidArgument _ code text => (code.toNat, text)
  | .permissionDenied _ code text => (code.toNat, text)
  | .resourceExhausted _ code text => (code.toNat, text)
  | .inappropriateType _ code text => (code.toNat, text)
  | .noSuchThing _ code text => (code.toNat, text)
  | .unexpectedEof => (5, "Unexpected end of file")
  | .userError text => (5, text)

/-- The reason behind the number of an error. -/
def problem (code : Nat) (text : String) : Files.Problem :=
  ([Files.Problem.notFound, .accessDenied, .exists, .busy, .notADirectory, .isADirectory,
    .nameTooLong].find? (·.code == code)).getD (.other code text)

/-- The name of a path on the machine, if it has one. -/
def nameOf (path : Files.Path) : Except Files.Fault String :=
  match Utf8.unencodable? path.toText with
  | some fault => .error (.unencodable fault)
  | none => if path.hasNul then .error .nulInPath else .ok (path.toText.string?.getD "")

/-- Run an operation on the name of a path, perhaps with a second path in view. -/
def guarded {α : Type} (path : Files.Path) (target : Option Files.Path) (act : String → IO α) :
    IO (Except Files.Fault α) := do
  match nameOf path with
  | .error fault => return .error fault
  | .ok name =>
    try
      return .ok (← act name)
    catch error =>
      let (code, text) := detail error
      return .error (.refused (problem code text) path.toText (target.map (·.toText)))

/-- Something is at a path. -/
def holds (path : Files.Path) : IO (Except Files.Fault Bool) := do
  match ← guarded path none fun name => IO.FS.realPath name with
  | .ok _ => return .ok true
  | .error (.refused .notFound _ _) => return .ok false
  | .error (.refused .notADirectory _ _) => return .ok false
  | .error (.refused problem shown target) => return .error (.refused problem shown target)
  | .error _ => return .ok false

/-- A directory is at a path: it leads on to itself. -/
def isDirectory (path : Files.Path) : IO Bool := do
  match ← guarded path none fun name => IO.FS.realPath (name ++ "/.") with
  | .ok _ => return true
  | .error _ => return false

/-- Letters of the part of a temporary name that makes it new. -/
def letters : List Char :=
  "abcdefghijklmnopqrstuvwxyz0123456789_".toList

/-- Eight letters. -/
def randomName : IO String := do
  let mut name := ""
  for _ in [0:8] do
    let n ← IO.rand 0 (letters.length - 1)
    name := name.push (letters.getD n '_')
  return name

/-- Make an empty file with a new name; a name that is taken is tried again, as often
as `fuel` says. -/
def makeTemporary (parent : Files.Path) (name : Text) :
    Nat → IO (Except Files.Fault Files.Path)
  | 0 => return .error (.refused .exists parent.toText none)
  | fuel + 1 => do
    let path := parent.child ("." ++ name ++ "." ++ Text.ofString (← randomName) ++ ".tmp")
    match ← guarded path none fun name => IO.FS.Handle.mk name .writeNew with
    | .ok _ => return .ok path
    | .error (.refused .exists _ _) => makeTemporary parent name fuel
    | .error fault => return .error fault

/-- Everyone may read, and the owner write. -/
def published : IO.FileRight :=
  { user := { read := true, write := true }, group := { read := true }
    other := { read := true } }

/-- The file system of the machine. -/
def files : Files.System IO where
  holds := holds
  isDirectory := isDirectory
  read path :=
    return (← guarded path none fun name => IO.FS.readBinFile name).map (·.toList)
  makeDirectory path := guarded path none fun name => IO.FS.createDir name
  makeTemporary parent name := makeTemporary parent name 10000
  write path content :=
    guarded path none fun name => IO.FS.writeBinFile name ⟨content.toArray⟩
  publish path := guarded path none fun name => IO.setAccessRights name published
  rename source target :=
    match nameOf target with
    | .error fault => return .error fault
    | .ok targetName =>
      guarded source (some target) fun sourceName => IO.FS.rename sourceName targetName
  discard path := do
    let _ ← guarded path none fun name => IO.FS.removeFile name

/-! ### Environment -/

/-- The values of some variables. -/
def environment (names : List String) : IO (String → Option Text) := do
  let found ← names.filterMapM fun name => do
    return (← IO.getEnv name).map fun value => (name, Text.ofString value)
  return fun name => found.lookup name

/-! ### Streams -/

/-- A text as the streams of the machine show it: a half of a character by its number. -/
def display (text : Text) : String :=
  String.ofList <| text.toList.flatMap fun
    | .char c => [c]
    | .half offset => '\\' :: 'u' :: Text.hexDigits 4 (Symbol.half offset).code

/-- The first halves of characters in a text, which standard output does not take. -/
def unprintable? (text : Text) : Option Utf8.Unencodable :=
  let before := text.toList.takeWhile (!Utf8.isHalf ·)
  match text.toList.dropWhile (!Utf8.isHalf ·) with
  | [] => none
  | half :: rest =>
    some ⟨half.code, before.length, before.length + (rest.takeWhile Utf8.isHalf).length⟩

/-- Put a text on the standard output of the machine. -/
def put (text : Text) : IO (Except Error Unit) := do
  match unprintable? text with
  | some fault => return .error (.file (.unencodable fault))
  | none =>
    try
      IO.print (display text)
      return .ok ()
    catch error =>
      let (code, reason) := detail error
      return .error (.file (.refused (problem code reason) "<stdout>" none))

/-- The machine as a command finds it.  What is meant for standard error is shown at the end, after
the log.  A sequence may take 64 gigabytes. -/
def platform : TaskGraph.Platform IO where
  files := files
  print
    | .output, text => put text
    | .errors, _ => return .ok ()
  memory := Nat.pow 2 33

end TaskGraph.Machine

/-- Run the command: entries of the log and messages about failures go to the error
stream. -/
def main (arguments : List String) : IO UInt32 := do
  let environment ← TaskGraph.Machine.environment TaskGraph.Settings.known
  let report ← TaskGraph.CommandLine.run TaskGraph.Machine.platform environment
    (arguments.map TaskGraph.Text.ofString)
  IO.eprint (TaskGraph.Machine.display report.messages)
  match report.ending with
  | .returned code => return UInt32.ofNat code
  | .stopped code => return UInt32.ofNat code
  | .raised error =>
    IO.eprintln (TaskGraph.Machine.display error.message)
    return 1
