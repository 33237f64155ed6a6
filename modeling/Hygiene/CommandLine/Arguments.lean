import Hygiene.Check.Plan
import Hygiene.CommandLine.Matches
import Hygiene.Config.Settings
import Hygiene.Error
import Hygiene.Text.Blank

/-!
# The arguments of the programs

There are three programs: the check of headers, the lint of shell scripts and the
lint of Python files. Each has its own options; all of them take the path of a
settings file, also from the environment, and answer to `--help` and `--version`.
-/

set_option autoImplicit false

namespace Hygiene.CommandLine

/-- The programs. -/
inductive Program where
  | header
  | shell
  | python
  deriving DecidableEq, Repr

/-- The name of a program. -/
def Program.name : Program → String
  | .header => "copyright-license-disclaimer"
  | .shell => "sigoptlint-shell"
  | .python => "sigoptlint-python"

/-- The version of the programs. -/
def version : String := "0.1.0"

/-- What a program shows when it is asked for its version. -/
def Program.versionText (program : Program) : String :=
  program.name ++ " " ++ version ++ "\n"

/-! ## Options -/

/-- The variable that names the settings file. -/
def settingsVariable : String := "SIGOPTLINT_CONFIG"

/-- The options that every program has. -/
def sharedOptions : List OptionSpec :=
  [⟨"config".toList, some 'C', .value .path⟩, ⟨"help".toList, some 'h', .help⟩,
    ⟨"version".toList, some 'V', .version⟩]

/-- The options of the check of headers. -/
def headerOptions : List OptionSpec :=
  [⟨"license".toList, none, .value .text⟩, ⟨"owner".toList, none, .value .text⟩,
    ⟨"fix-in-place".toList, some 'f', .flag⟩, ⟨"exclude".toList, none, .values .text⟩,
    ⟨"year".toList, none, .value .year⟩, ⟨"scan-lines".toList, none, .value .count⟩,
    ⟨"skip-empty".toList, none, .flag⟩, ⟨"verbose".toList, some 'v', .flag⟩,
    ⟨"output".toList, some 'o', .value .format⟩, ⟨"color".toList, none, .flag⟩,
    ⟨"no-color".toList, none, .flag⟩]

/-- The options of the lint of Python files. -/
def pythonOptions : List OptionSpec :=
  [⟨"include".toList, none, .commaValues .text⟩, ⟨"ignore".toList, none, .commaValues .text⟩]

/-- The command line of a program. -/
def Program.grammar : Program → Grammar
  | .header => ⟨headerOptions ++ sharedOptions, true⟩
  | .shell => ⟨sharedOptions, false⟩
  | .python => ⟨pythonOptions ++ sharedOptions, false⟩

/-- What a command line gives a program, when the variable for the settings file has
the given value. -/
def Program.read (program : Program) (settingsFile : Option Text) (words : List Text) :
    Except Refusal Matches :=
  program.grammar.read (settingsFile.toList.map fun value => ("config".toList, value)) words

/-- The settings file that is asked for. -/
def Matches.settingsFile? (found : Matches) : Option Path :=
  (found.value? "config").map Path.mk

/-! ## Arguments by program -/

/-- The arguments of the check of headers. -/
structure HeaderArguments where
  targets : List Path
  license : Option Text
  owner : Option Text
  fix : Bool
  exclude : List Text
  year : Option Nat
  scanLines : Option Nat
  skipEmpty : Bool
  verbose : Bool
  format : Format
  color : Bool
  noColor : Bool
  settingsFile : Option Path
  deriving DecidableEq

/-- The arguments that a command line gives the check of headers. -/
def HeaderArguments.ofMatches (found : Matches) : HeaderArguments where
  targets := found.operands.map Path.mk
  license := found.value? "license"
  owner := found.value? "owner"
  fix := found.isGiven "fix-in-place"
  exclude := found.values "exclude"
  year := (found.value? "year").bind readYear?
  scanLines := (found.value? "scan-lines").bind readCount?
  skipEmpty := found.isGiven "skip-empty"
  verbose := found.isGiven "verbose"
  format := ((found.value? "output").bind Format.ofName?).getD .text
  color := found.isGiven "color"
  noColor := found.isGiven "no-color"
  settingsFile := found.settingsFile?

/-- The arguments of the lint of shell scripts. -/
structure ShellArguments where
  files : List Path
  settingsFile : Option Path
  deriving DecidableEq

/-- The arguments that a command line gives the lint of shell scripts. -/
def ShellArguments.ofMatches (found : Matches) : ShellArguments where
  files := found.operands.map Path.mk
  settingsFile := found.settingsFile?

/-- The arguments of the lint of Python files. -/
structure PythonArguments where
  files : List Path
  included : List Text
  ignored : List Text
  settingsFile : Option Path
  deriving DecidableEq

/-- The arguments that a command line gives the lint of Python files. -/
def PythonArguments.ofMatches (found : Matches) : PythonArguments where
  files := found.operands.map Path.mk
  included := found.values "include"
  ignored := found.values "ignore"
  settingsFile := found.settingsFile?

/-! ## From arguments to a check -/

/-- A text that a flag gives, or else the settings. -/
def required (flag setting : Option Text) (reason : String) : Except Error Text :=
  match flag.or setting with
  | some text => .ok text
  | none => .error (.config reason none)

/-- The check that arguments ask for, with the settings where they say nothing. The
patterns of the settings come before those of the arguments. The license and the
owner must be given, and neither may be blank. -/
def HeaderArguments.plan (arguments : HeaderArguments) (settings : Config.HeaderSettings) :
    Except Error Check.Plan := do
  let license ← required arguments.license settings.license
    "missing license: pass --license or set disclaimer.license"
  let owner ← required arguments.owner settings.owner
    "missing owner: pass --owner or set disclaimer.owner"
  if license.isBlank || owner.isBlank then
    throw (.argument "license and owner must not be empty")
  let year := match (arguments.year.map Int.ofNat).or settings.year with
    | some year => Header.YearPolicy.fixed year
    | none => .any
  return {
    notice := ⟨license, owner, year⟩
    fix := arguments.fix
    targets := arguments.targets
    exclude := settings.exclude ++ arguments.exclude
    scanLines := (arguments.scanLines.or settings.scanLines).getD Header.defaultScanLines
    skipEmpty := arguments.skipEmpty || settings.skipEmpty }

end Hygiene.CommandLine
