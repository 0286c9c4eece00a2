/-
Module: TaskGraph.Settings
Purpose: Settings that come from the environment.
Main exports:
  Settings, Settings.ofEnvironment
-/
import TaskGraph.Text.Capital
import TaskGraph.Topology.Basic

namespace TaskGraph

/-- What the environment decides. -/
structure Settings where
  parallelismKey : Text := defaultParallelismKey
  outputDirectory : Text := "output"
  logLevel : Text := "INFO"
deriving DecidableEq, Repr, Inhabited

namespace Settings

/-- The variable for the parallelism key. -/
def parallelismKeyVariable : String := "TOPOGRAPH_PARALLELISM_KEY"

/-- The variable for the output directory. -/
def outputDirectoryVariable : String := "TOPOGRAPH_OUTPUT_DIR"

/-- The variable for the log level. -/
def logLevelVariable : String := "TOPOGRAPH_LOG_LEVEL"

/-- The variables that are looked at. -/
def known : List String :=
  [parallelismKeyVariable, outputDirectoryVariable, logLevelVariable]

/-- The settings under an environment; a variable that is set to nothing counts as
set. -/
def ofEnvironment (environment : String → Option Text) : Settings :=
  let standard : Settings := {}
  { parallelismKey := (environment parallelismKeyVariable).getD standard.parallelismKey
    outputDirectory := (environment outputDirectoryVariable).getD standard.outputDirectory
    logLevel := Text.toUpper ((environment logLevelVariable).getD standard.logLevel) }

end Settings

end TaskGraph
