/-
AlertConformance.Command.Effects — what a command does.

A command decides what to print and which files to write; the outer layer
does it.

* `normalPath` — a path without empty components and dots.
* `Effects` — the lines, files and exit code of a run.
-/
namespace AlertConformance.Command

/-! ## Paths -/

/-- The slashes that a path starts with: none, one, or exactly two. -/
def pathRoot (cs : List Char) : String :=
  match (cs.takeWhile (· = '/')).length with
  | 0 => ""
  | 2 => "//"
  | _ => "/"

/-- A path without empty components and components of a single dot. -/
def normalPath (path : String) : String :=
  let cs := path.toList
  let parts := (cs.splitOn '/').filter fun part => part ≠ [] && part ≠ ['.']
  let normal := pathRoot cs ++ "/".intercalate (parts.map String.ofList)
  if normal.isEmpty then "." else normal

/-- A file in a directory, whose path is normal. -/
def inDirectory (directory name : String) : String :=
  if directory = "." then name
  else if directory.endsWith "/" then directory ++ name
  else directory ++ "/" ++ name

/-! ## Effects -/

/-- What a run prints, writes and exits with. Every line ends with a line
break. -/
structure Effects where
  exitCode : Nat
  output : List String := []
  errors : List String := []
  files : List (String × String) := []

/-- A command line that is not understood. -/
def Effects.refused : Effects := { exitCode := 2 }

/-- A run that does nothing. -/
def Effects.nothing : Effects := { exitCode := 0 }

end AlertConformance.Command
