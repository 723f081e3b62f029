import RoutePlan.Session
import RoutePlan.Settings.Load

/-!
# The command line

`check` compiles a document and prints its tree, `routes` prints its routes.  Both
take the name of a document in the configuration directory, and both compile with
the settings of a file, if one is named in front of them.

`CommandLine.read?` reads the arguments and `Job.run` does what they ask for, on a
set of files.
-/

namespace RoutePlan

/-- What is done with a document. -/
inductive Task where
  | check | routes
deriving DecidableEq

namespace Task

/-- The word for a task. -/
def name : Task → String
  | check => "check"
  | routes => "routes"

/-- What a task is for. -/
def about : Task → String
  | check => "Compile a configuration file and print its tree"
  | routes => "List the routes a configuration file registers"

/-- The task that a word stands for. -/
def ofName? (word : String) : Option Task :=
  [check, routes].find? fun task => task.name == word

end Task

/-- A task on a document. -/
structure Job where
  settingsPath : Option String
  task : Task
  file : String
deriving DecidableEq

/-- What help is about. -/
inductive HelpTopic where
  | program
  | task (task : Task)
  | help
deriving DecidableEq

/-- What the arguments ask for. -/
inductive CommandLine where
  | run (job : Job)
  | help (topic : HelpTopic)
deriving DecidableEq

/-! ## Help -/

namespace HelpTopic

/-- The lines of a help text. -/
def lines : HelpTopic → List String
  | program =>
      ["Compile and inspect YAML route configurations",
        "",
        "Usage: config-router [OPTIONS] <COMMAND>",
        "",
        "Commands:",
        "  check   " ++ Task.check.about,
        "  routes  " ++ Task.routes.about,
        "  help    Print this message or the help of the given subcommand(s)",
        "",
        "Options:",
        "  -s, --settings <SETTINGS>  TOML settings file",
        "  -h, --help                 Print help"]
  | task chosen =>
      [chosen.about,
        "",
        s!"Usage: config-router {chosen.name} <FILE>",
        "",
        "Arguments:",
        "  <FILE>  ",
        "",
        "Options:",
        "  -h, --help  Print help"]
  | help =>
      ["Print this message or the help of the given subcommand(s)",
        "",
        "Usage: config-router help [COMMAND]...",
        "",
        "Arguments:",
        "  [COMMAND]...  Print help for the subcommand(s)"]

/-- The topic that the words behind `help` name. -/
def ofWords? : List String → Option HelpTopic
  | [] => some program
  | [word] => if word = "help" then some help else (Task.ofName? word).map task
  | _ => none

end HelpTopic

/-! ## Arguments -/

namespace CommandLine

/-- Whether an argument has the form of an option.  A lone dash has not. -/
def isOption (argument : String) : Bool :=
  match argument.toList with
  | '-' :: _ :: _ => true
  | _ => false

/-- Whether an argument asks for help. -/
def asksHelp (argument : String) : Bool :=
  argument == "--help" || "-h".toList.isPrefixOf argument.toList

/-- Read the arguments behind a task: one file, behind which or in front of which
two dashes may stand. -/
def readFile? (settingsPath : Option String) (task : Task) :
    Option String → List String → Option CommandLine
  | file, [] => (file.filter (· ≠ "")).map fun file => .run ⟨settingsPath, task, file⟩
  | file, argument :: rest =>
      if argument = "--" then
        match file, rest with
        | some file, [] => readFile? settingsPath task (some file) []
        | none, [file] => readFile? settingsPath task (some file) []
        | _, _ => none
      else if file = some "" then none
      else if asksHelp argument then some (.help (.task task))
      else if isOption argument ∨ file.isSome then none
      else readFile? settingsPath task (some argument) rest

/-- The value in an argument that begins with the name of an option: an equals
sign may stand between the two, and must behind a name in full. -/
def inlineValue? (argument : String) : Option String :=
  match argument.toList with
  | '-' :: '-' :: rest =>
      let name := "settings=".toList
      if name.isPrefixOf rest then some (String.ofList (rest.drop name.length)) else none
  | '-' :: 's' :: '=' :: value => some (String.ofList value)
  | '-' :: 's' :: value => if value = [] then none else some (String.ofList value)
  | _ => none

/-- Read arguments, the path of the settings being known if there was one. -/
def readFrom? (settingsPath : Option String) : List String → Option CommandLine
  | [] => none
  | argument :: rest =>
      if argument = "help" then (HelpTopic.ofWords? rest).map .help
      else if asksHelp argument then some (.help .program)
      else
        match Task.ofName? argument with
        | some task => readFile? settingsPath task none rest
        | none =>
            if argument = "-s" ∨ argument = "--settings" then
              match rest with
              | value :: rest =>
                  if settingsPath.isSome ∨ isOption value ∨ value = "" then none
                  else readFrom? (some value) rest
              | [] => none
            else
              match inlineValue? argument with
              | some value =>
                  if settingsPath.isSome ∨ value = "" then none
                  else readFrom? (some value) rest
              | none => none

/-- Read the arguments of the program. -/
def read? (arguments : List String) : Option CommandLine :=
  readFrom? none arguments

end CommandLine

/-! ## Jobs -/

namespace Job

/-- Why a job fails. -/
inductive Failure where
  | settings (path : String) (problem : Settings.Problem)
  | plan (error : PlanError)

/-- The wording of a failure. -/
def Failure.message : Failure → String
  | settings path problem => s!"Error: {path}: {problem.message}"
  | plan error => "Error: " ++ error.message

/-- The settings of a job. -/
def settings (job : Job) (files : FileSet) : Except Failure Settings :=
  match job.settingsPath with
  | none => .ok {}
  | some path => (Settings.load files path).mapError (.settings path)

/-- What a task prints about a session. -/
def report (session : Session) : Task → String
  | .check => session.render ++ "\n"
  | .routes => String.join (session.routes.map fun route => route.display ++ "\n")

/-- Do a job: what it prints, or why it fails. -/
def run (job : Job) (files : FileSet) : Except Failure String := do
  let settings ← job.settings files
  let session := Session.start ⟨settings.routes, files⟩ ⟨.empty, .empty⟩
  let after := session.parseFile job.file
  match after.error with
  | some error => .error (.plan error)
  | none => return report after.session job.task

end Job

end RoutePlan
