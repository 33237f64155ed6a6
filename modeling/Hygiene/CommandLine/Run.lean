import Hygiene.Check
import Hygiene.Color
import Hygiene.CommandLine.Arguments
import Hygiene.Config.Load
import Hygiene.Python.Files
import Hygiene.Python.Linter
import Hygiene.Remark
import Hygiene.Report.Json
import Hygiene.Report.Plain
import Hygiene.Shell.Lint

/-!
# Running the programs

Every program first finds and loads the settings, and an error there ends it. The check of
headers writes its report, the lints write their findings; warnings, remarks and errors go
where errors are written. A program that an error ends writes nothing else after it.
-/

set_option autoImplicit false

namespace Hygiene.CommandLine

/-- What a program knows of the world besides its workspace. -/
structure Environment where
  /-- The settings file that the environment names. -/
  settingsFile : Option Text
  colorHints : ColorHints
  currentYear : Nat
  /-- How other programs are started. -/
  launch : Launch.Launcher

/-- What a program leaves: the workspace, what it wrote, and its code. -/
structure Result where
  workspace : Workspace
  output : String
  errors : String
  code : Nat

/-- Lines as they are written. -/
def written (lines : List String) : String :=
  String.join (lines.map fun line => line ++ "\n")

/-- The line in which a program tells an error. -/
def errorLine (program : Program) (error : Error) : String :=
  program.name ++ ": " ++ error.message

/-- The result of a program that an error ends, with the lines that were written before
where errors are written. -/
def ended (program : Program) (workspace : Workspace) (lines : List String) (error : Error) :
    Result :=
  ⟨workspace, "", written (lines ++ [errorLine program error]), error.exitCode.toNat⟩

/-- A report in the form that is asked for. -/
def showReport {π : Type} [Spelled π] (format : Format) (colored : Bool) (report : Report π) :
    Except String String :=
  match format with
  | .text => .ok (report.text colored)
  | .json => report.writeJson

/-- The result of a check that has a report. A report that cannot be written is none of the
causes that are foreseen. -/
def reported {π : Type} [Spelled π] (workspace : Workspace) (lines : List String) (format : Format)
    (colored : Bool) (report : Report π) : Result :=
  match showReport format colored report with
  | .ok output => ⟨workspace, output, written lines, report.exitCode.toNat⟩
  | .error message =>
    ⟨workspace, "", written (lines ++ [Program.header.name ++ ": " ++ message]),
      ExitCode.internalError.toNat⟩

section Programs

variable [Toml.Words]

/-- A program goes on with the settings that are asked for, and the lines that warn of
them. -/
def withSettings (program : Program) (workspace : Workspace) (asked : Option Path)
    (next : Config.Settings → List String → Result) : Result :=
  match Config.choose workspace asked with
  | .error error => ended program workspace [] error
  | .ok file =>
    let loaded := Config.load workspace file
    match loaded.settings with
    | .error error => ended program workspace loaded.warnings error
    | .ok settings => next settings loaded.warnings

/-- The check of headers. -/
def runHeader (workspace : Workspace) (environment : Environment) (arguments : HeaderArguments) :
    Result :=
  withSettings .header workspace arguments.settingsFile fun settings warnings =>
    match arguments.plan settings.header with
    | .error error => ended .header workspace warnings error
    | .ok plan =>
      let made := Check.run workspace plan environment.currentYear
      let lines := warnings ++ Remark.lines arguments.verbose made.remarks
      match made.report with
      | .error error => ended .header made.workspace lines error
      | .ok report =>
        let choice := ColorChoice.choose arguments.color arguments.noColor environment.colorHints
        reported made.workspace lines arguments.format (choice != .never) report

/-- The lint of shell scripts. -/
def runShell (workspace : Workspace) (arguments : ShellArguments) : Result :=
  withSettings .shell workspace arguments.settingsFile fun _ warnings =>
    let findings := (Shell.lintFiles workspace arguments.files).value
    ⟨workspace, written (findings.map Shell.Finding.display), written warnings,
      (Shell.exitCode findings).toNat⟩

/-- The code of the lint of Python files, given the code of the linter that was run after
the rules. -/
def codeAfterLinter (code linterCode : Nat) : Nat :=
  if linterCode = 0 then code else linterCode

/-- The result of the lint of Python files with the linter of the settings. -/
def finishWithLinter (environment : Environment) (result : Result)
    (linter : Option Launch.Invocation) : Result :=
  match linter with
  | none => result
  | some invocation =>
    match (Python.runLinter environment.launch invocation).value with
    | .error error =>
      { result with
        errors := result.errors ++ written [errorLine .python error]
        code := error.exitCode.toNat }
    | .ok linted =>
      { result with
        output := result.output ++ String.ofList linted.output
        errors := result.errors ++ String.ofList linted.errors
        code := codeAfterLinter result.code linted.code }

/-- The lint of Python files. -/
def runPython (workspace : Workspace) (environment : Environment) (arguments : PythonArguments) :
    Result :=
  withSettings .python workspace arguments.settingsFile fun settings warnings =>
    match Python.Rule.select arguments.included arguments.ignored with
    | .error error => ended .python workspace warnings error
    | .ok rules =>
      let report := (Python.lintFiles workspace rules arguments.files).value
      let shown := report.findings.map fun (path, finding) => finding.display path
      let lines := warnings ++ report.errors.map (errorLine .python)
      finishWithLinter environment
        ⟨workspace, written shown, written lines, report.exitCode.toNat⟩
        (Python.linterFor? settings.linter arguments.files)

/-- A program that is run with the words of a command line, unless it refuses them. -/
def run (workspace : Workspace) (environment : Environment) (program : Program)
    (words : List Text) : Except Refusal Result := do
  let found ← program.read environment.settingsFile words
  match program with
  | .header => return runHeader workspace environment (.ofMatches found)
  | .shell => return runShell workspace (.ofMatches found)
  | .python => return runPython workspace environment (.ofMatches found)

end Programs

end Hygiene.CommandLine
