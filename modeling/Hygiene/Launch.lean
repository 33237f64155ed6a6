import Hygiene.Launch.Execution
import Hygiene.Text.Blank
import Hygiene.Toml.Handover
import Hygiene.Workspace

/-!
# What stands in for the surroundings

How other programs are started and in which words a text is told to be no TOML document is up
to the surroundings, and what is said of the programs is said for any surroundings. The ones
here are those in which the programs are tried out.

A linter is started by the name of its program. A few programs are known by their names;
a name with a slash is the path of a script, which must be a file that may be executed.
A program that is not found cannot be started. The words on a text are left out.

A linter command can be a script for the shell. The scripts that are understood are
sequences of simple commands between semicolons, line feeds, `&&` and `||`. Words can be
quoted and can hold parameters of the script. The output of a command can be sent where
errors go, or nowhere. The commands are `echo`, `exit`, `kill`, `true`, `false` and `:`;
any other one is not found.
-/

set_option autoImplicit false

namespace Hygiene.Launch

/-! ## Small scripts -/

namespace Script

/-! ### Tokens -/

/-- A part of a word. -/
inductive Part where
  | literal (text : Text)
  /-- A parameter, which is cut at blanks unless it is quoted. -/
  | parameter (name : Char) (quoted : Bool)
  deriving Repr

/-- Where the output of a command goes. -/
inductive Route where
  | output
  | errors
  | nowhere
  deriving DecidableEq, Repr

/-- When a command is run, given whether the one before it succeeded. -/
inductive Condition where
  | always
  | onSuccess
  | onFailure
  deriving DecidableEq, Repr

/-- A token of a script. -/
inductive Token where
  | word (parts : List Part)
  | route (route : Route)
  | separator (condition : Condition)
  deriving Repr

/-- What surrounds a character. -/
inductive Mode where
  | plain
  | single
  | double
  | comment
  deriving DecidableEq, Repr

/-- The routes that can be written behind a word, and the number of characters that they
take. A route for errors alone is not taken into account. -/
def routes : List (Text × Option Route) :=
  [(">&2".toList, some .errors), ("1>&2".toList, some .errors), ("2>&1".toList, none),
    ("2>/dev/null".toList, none), ("2> /dev/null".toList, none),
    (">/dev/null".toList, some .nowhere), ("> /dev/null".toList, some .nowhere)]

/-- A word that is read, in front of later tokens. -/
def finish (word : Option (List Part)) (later : List Token) : List Token :=
  match word with
  | some parts => .word parts :: later
  | none => later

/-- A word with one more part. -/
def extend (word : Option (List Part)) (part : Part) : Option (List Part) :=
  some (word.getD [] ++ [part])

/-- The tokens of a script, of which the first characters are skipped. -/
def tokens : (skipped : Nat) → Mode → Option (List Part) → Text → List Token
  | _, _, word, [] => finish word []
  | skipped + 1, mode, word, _ :: rest => tokens skipped mode word rest
  | 0, .comment, word, c :: rest =>
    if c = '\n' then .separator .always :: tokens 0 .plain none rest
    else tokens 0 .comment word rest
  | 0, .single, word, c :: rest =>
    if c = '\x27' then tokens 0 .plain word rest
    else tokens 0 .single (extend word (.literal [c])) rest
  | 0, .double, word, c :: rest =>
    match c, rest with
    | '\x22', _ => tokens 0 .plain word rest
    | '$', name :: _ => tokens 1 .double (extend word (.parameter name true)) rest
    | '\\', escaped :: _ =>
      if escaped = '\x22' || escaped = '\\' || escaped = '$' then
        tokens 1 .double (extend word (.literal [escaped])) rest
      else tokens 0 .double (extend word (.literal [c])) rest
    | _, _ => tokens 0 .double (extend word (.literal [c])) rest
  | 0, .plain, word, c :: rest =>
    match (if word.isNone then routes else []).find? fun entry =>
        entry.1.isPrefixOf (c :: rest) with
    | some (written, found) =>
      (found.map Token.route).toList ++ tokens (written.length - 1) .plain none rest
    | none =>
      match c, rest with
      | '\x27', _ => tokens 0 .single (some (word.getD [])) rest
      | '\x22', _ => tokens 0 .double (some (word.getD [])) rest
      | '$', name :: _ => tokens 1 .plain (extend word (.parameter name false)) rest
      | '\\', escaped :: _ => tokens 1 .plain (extend word (.literal [escaped])) rest
      | '&', '&' :: _ => finish word (.separator .onSuccess :: tokens 1 .plain none rest)
      | '|', '|' :: _ => finish word (.separator .onFailure :: tokens 1 .plain none rest)
      | '>', '&' :: '2' :: _ => finish word (.route .errors :: tokens 2 .plain none rest)
      | _, _ =>
        if c = ';' || c = '\n' then
          finish word (.separator .always :: tokens 0 .plain none rest)
        else if c = '#' && word.isNone then tokens 0 .comment none rest
        else if isBlankChar c then finish word (tokens 0 .plain none rest)
        else tokens 0 .plain (extend word (.literal [c])) rest

/-! ### Commands -/

/-- A command of a script. -/
structure Command where
  condition : Condition
  words : List (List Part)
  route : Route
  deriving Repr

/-- The commands that tokens make up, the first of which is run under a condition. -/
def commands (condition : Condition) : List Token → List Command
  | [] => [⟨condition, [], .output⟩]
  | .separator next :: later => ⟨condition, [], .output⟩ :: commands next later
  | token :: later =>
    match commands condition later with
    | [] => []
    | first :: others =>
      match token with
      | .word parts => { first with words := parts :: first.words } :: others
      | .route route => { first with route := route } :: others
      | .separator _ => first :: others

/-! ### Running -/

/-- A script while it runs. -/
structure State where
  /-- The name of the script and its arguments. -/
  arguments : List Text
  status : Nat
  output : Text
  errors : Text
  ending : Option Ending

/-- What a parameter stands for. -/
def parameter (state : State) (name : Char) : List Text :=
  if name = '@' || name = '*' then state.arguments.tail
  else if name = '#' then [Text.ofNat state.arguments.tail.length]
  else if name = '?' then [Text.ofNat state.status]
  else if name = '$' then ["$$".toList]
  else if name.isDigit then (state.arguments[name.toNat - '0'.toNat]?).toList
  else []

/-- Texts joined to the last one of those before them. -/
def glue (before texts : List Text) : List Text :=
  match before.reverse, texts with
  | _, [] => before
  | [], _ => texts
  | last :: earlier, first :: others => earlier.reverse ++ (last ++ first) :: others

/-- The texts that a part of a word stands for. -/
def textsOf (state : State) : Part → List Text
  | .literal text => [text]
  | .parameter '*' true => [Text.join [' '] (parameter state '*')]
  | .parameter name true => parameter state name
  | .parameter name false => (parameter state name).flatMap Text.words

/-- The texts that a word stands for. A word without parts is the empty text. -/
def expand (state : State) (word : List Part) : List Text :=
  if word.isEmpty then [[]] else (word.map (textsOf state)).foldl glue []

/-- The number that a text spells, or zero. -/
def numberOf (text : Text) : Nat :=
  text.foldl (fun number c => 10 * number + (c.toNat - '0'.toNat)) 0

/-- What a command writes, its status, and whether the script ends with it. -/
def effect (state : State) (words : List Text) : Text × Text × Nat × Option Ending :=
  match words.map String.ofList, words with
  | [], _ => ([], [], state.status, none)
  | "echo" :: "-n" :: _, _ :: _ :: shown => (Text.join [' '] shown, [], 0, none)
  | "echo" :: _, _ :: shown => (Text.join [' '] shown ++ ['\n'], [], 0, none)
  | "exit" :: _, _ :: code :: _ => ([], [], 0, some (.exited (numberOf code % 256)))
  | "exit" :: _, _ => ([], [], 0, some (.exited state.status))
  | "kill" :: "-0" :: _, _ => ([], [], 0, none)
  | "kill" :: _, _ => ([], [], 0, some .killed)
  | "true" :: _, _ => ([], [], 0, none)
  | ":" :: _, _ => ([], [], 0, none)
  | "false" :: _, _ => ([], [], 1, none)
  | name :: _, _ =>
    ([], state.arguments.headD [] ++ (": 1: " ++ name ++ ": not found\n").toList, 127, none)

/-- Whether a command is run after the one before it. -/
def Condition.holds (condition : Condition) (status : Nat) : Bool :=
  match condition with
  | .always => true
  | .onSuccess => status = 0
  | .onFailure => status ≠ 0

/-- A command is run. -/
def run (state : State) (command : Command) : State :=
  if state.ending.isSome || !command.condition.holds state.status then state
  else
    let (written, complaint, status, ending) :=
      effect state (command.words.flatMap (expand state))
    { state with
      status := status
      ending := ending
      output := state.output ++ if command.route = .output then written else []
      errors := state.errors ++ complaint ++ if command.route = .errors then written else [] }

/-- The execution of a script with a name and arguments. -/
def execute (content : Text) (arguments : List Text) : Execution :=
  let state := (commands .always (tokens 0 .plain none content)).foldl run
    ⟨arguments, 0, [], [], none⟩
  ⟨state.ending.getD (.exited state.status), state.output, state.errors⟩

end Script

/-! ## Programs -/

/-- A program that ends with a code and writes nothing. -/
def silent (code : Nat) : Execution := ⟨.exited code, [], []⟩

/-- The arguments of `echo`, shown on a line. -/
def echo (arguments : List Text) : Execution :=
  match arguments.map String.ofList, arguments with
  | "-n" :: _, _ :: shown => ⟨.exited 0, Text.join [' '] shown, []⟩
  | _, shown => ⟨.exited 0, Text.join [' '] shown ++ ['\n'], []⟩

/-- The text of a script, if it can be read. -/
def scriptText? (workspace : Workspace) (path : Path) : Option Text :=
  match workspace.bytes path with
  | .ok bytes => (String.fromUTF8? bytes).map String.toList
  | .error _ => none

/-- The shell, with a script as an argument or in a file. -/
def shell (workspace : Workspace) (arguments : List Text) : Execution :=
  match arguments.map String.ofList, arguments with
  | "-c" :: _, _ :: script :: [] => Script.execute script ["sh".toList]
  | "-c" :: _, _ :: script :: given => Script.execute script given
  | _, file :: given =>
    match scriptText? workspace ⟨file⟩ with
    | some content => Script.execute content (file :: given)
    | none =>
      ⟨.exited 2, [], "sh: 0: cannot open ".toList ++ file ++ ": No such file\n".toList⟩
  | _, [] => silent 0

/-- The programs that are known by their names. -/
def known? (workspace : Workspace) (name : Text) (arguments : List Text) : Option Execution :=
  match String.ofList name with
  | "true" => some (silent 0)
  | "false" => some (silent 1)
  | "echo" => some (echo arguments)
  | "sh" => some (shell workspace arguments)
  | _ => none

/-- Whether a file may be executed. -/
def isExecutable (mode : Nat) : Bool :=
  mode.testBit 6 || mode.testBit 3 || mode.testBit 0

/-- A program that is found by its path. -/
def startFile (workspace : Workspace) (path : Text) (arguments : List Text) :
    Except SystemError Execution := do
  match ← workspace.examine ⟨path⟩ with
  | .file mode content =>
    if !isExecutable mode then throw .denied
    match String.fromUTF8? content with
    | some text =>
      if "#!".isPrefixOf text then return Script.execute text.toList (path :: arguments)
      else throw .noProgram
    | none => throw .noProgram
  | _ => throw .denied

/-- What starting a program comes to. -/
def start (workspace : Workspace) : Launcher := fun invocation =>
  if invocation.program.contains '/' then
    startFile workspace invocation.program invocation.arguments
  else
    match known? workspace invocation.program invocation.arguments with
    | some execution => .ok execution
    | none => .error .notFound

/-- Nothing is told of a text besides that it is at fault. -/
instance fewWords : Toml.Words where
  describe _ := ""

end Hygiene.Launch
