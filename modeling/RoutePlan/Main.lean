import RoutePlan.CommandLine

/-!
# The program

The command line at work: jobs are done on the files that can be reached from the
working directory, each of which is read when a job first misses it.
-/

namespace RoutePlan

namespace FileSet

/-- Add the file at a path, and the directories on the way to it. -/
def add (files : FileSet) (path : String) (octets : List UInt8) : FileSet :=
  let place (steps : List String) : List String :=
    FilePath.place files.workingDirectory (String.intercalate "/" steps)
  let steps := Text.pieces '/' path
  { files with
    files := (place steps, octets) :: files.files
    directories := (List.range steps.length).map (fun count => place (steps.take count))
      ++ files.directories }

end FileSet

/-- The path of the file that a failed job missed. -/
def Job.Failure.missedPath? : Job.Failure → Option String
  | .settings path (.unreadable .notFound) => some path
  | .plan (.fileNotFound path) => some path
  | _ => none

/-- Do a job on the files that can be reached, some of which are known. -/
partial def Job.runHere (job : Job) (known : FileSet) : IO (Except Job.Failure String) := do
  match job.run known with
  | .ok output => return .ok output
  | .error failure =>
      match failure.missedPath? with
      | none => return .error failure
      | some path =>
          if (known.contents? (FilePath.place known.workingDirectory path)).isSome then
            return .error failure
          else
            try
              let octets ← IO.FS.readBinFile path
              job.runHere (known.add path octets.toList)
            catch _ => return .error failure

end RoutePlan

open RoutePlan in
/-- Do what the arguments ask for; the exit code tells failures and wrong
arguments apart. -/
def main (arguments : List String) : IO UInt32 := do
  match CommandLine.read? arguments with
  | none =>
      IO.eprintln "error: invalid arguments; for more information, try '--help'."
      return 2
  | some (.help topic) =>
      for line in topic.lines do
        IO.println line
      return 0
  | some (.run job) =>
      let here := Text.segments (← IO.currentDir).toString
      match ← job.runHere { FileSet.empty with workingDirectory := here } with
      | .ok output =>
          IO.print output
          return 0
      | .error failure =>
          IO.eprintln failure.message
          return 1
