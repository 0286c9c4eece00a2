/-
Module: TaskGraph.Files.Fault
Purpose: Why an operation on files failed.
Main exports:
  Files.Problem, Files.Fault, Files.Fault.message
-/
import TaskGraph.Text.Utf8

namespace TaskGraph.Files

/-- The reasons for which the file system refuses an operation. -/
inductive Problem where
  | notFound
  | accessDenied
  | exists
  | busy
  | notADirectory
  | isADirectory
  | nameTooLong
  | other (code : Nat) (message : String)
deriving DecidableEq, Repr, Inhabited

/-- The number of a reason. -/
def Problem.code : Problem → Nat
  | .notFound => 2
  | .accessDenied => 13
  | .exists => 17
  | .busy => 16
  | .notADirectory => 20
  | .isADirectory => 21
  | .nameTooLong => 36
  | .other code _ => code

/-- The wording of a reason. -/
def Problem.message : Problem → String
  | .notFound => "No such file or directory"
  | .accessDenied => "Permission denied"
  | .exists => "File exists"
  | .busy => "Device or resource busy"
  | .notADirectory => "Not a directory"
  | .isADirectory => "Is a directory"
  | .nameTooLong => "File name too long"
  | .other _ message => message

/-- A failed operation.  A path that has no bytes, or has a NUL character, is refused
before the file system sees it; another one may need more steps than are allowed. -/
inductive Fault where
  | refused (problem : Problem) (path : Text) (target : Option Text)
  | unencodable (fault : Utf8.Unencodable)
  | nulInPath
  | tooDeep
deriving DecidableEq, Repr, Inhabited

/-- The file or directory is not there. -/
def Fault.isNotFound : Fault → Bool
  | .refused .notFound _ _ => true
  | _ => false

/-- What a message says about a failed operation: the reason with its number, the
path, and the second path of an operation that has two. -/
def Fault.message : Fault → Text
  | .refused problem path target =>
    let second := match target with
      | some path => " -> " ++ Text.quoted path
      | none => Text.empty
    s!"[Errno {problem.code}] {problem.message}: " ++ Text.quoted path ++ second
  | .unencodable fault => fault.message
  | .nulInPath => "embedded null byte"
  | .tooDeep => "the path has too many missing directories"

end TaskGraph.Files
