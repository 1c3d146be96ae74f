import GinSave.Cli.Help
import GinSave.Cli.Parser
import GinSave.Store.World
import GinSave.Text.Quoted
import GinSave.Text.Lower

/-!
Running a command line against the world. A run stops early in one of three ways: a fault
escapes, a usage error is reported (exit code 2), or the program exits with a code.

A command's values are processed in this order: the eager options given (in the order given),
the other eager options, the other options given, the arguments, and the options not given. An
option not given takes its default. A path value is resolved against the working directory and
checked by its rule; the first value that fails is a usage error naming the parameter. Then
texts left over are a usage error.

A group reads its options, then runs its own step, then the command its first text names with the
texts after it. A group run with no text may show its help instead.
-/

namespace GinSave.Cli

open GinSave.Store GinSave.Text

/-- Why a run stops early. -/
inductive Stop where
  /-- A fault escapes. -/
  | fault (f : Fault)
  /-- A usage error, shown as this text. -/
  | usage (text : String)
  /-- The program exits with a code. -/
  | exit (code : Nat)

/-- A step of a run. -/
abbrev Run := EStateM Stop World

/-- A step of the world as a step of a run. -/
def act {α : Type} (a : Act α) : Run α :=
  EStateM.adaptExcept Stop.fault a

/-- A parameter's value once processed. -/
inductive ParamValue where
  | none
  | switch (on : Bool)
  | text (s : String)
  | path (p : FsPath)
  | paths (ps : List FsPath)
  deriving Inhabited

/-- The processed values of a command, by name. -/
abbrev Params := List (String × ParamValue)

/-- The value of a parameter. -/
def Params.get (ps : Params) (dest : String) : ParamValue :=
  ((ps.find? (·.1 == dest)).map (·.2)).getD .none

/-- The text a usage error shows for the command reached by `path`. -/
def usageText (path : String) (c : Command) (e : UsageError) : String :=
  let shown := "Error: " ++ e.message ++ "\n"
  if e.withUsage then
    usageLine path c ++ "\n" ++ "Try '" ++ path ++ " -h' for help.\n" ++ "\n" ++ shown
  else shown

/-- Stops with a usage error of the command reached by `path`. -/
def failUsage {α : Type} (path : String) (c : Command) (message : String) : Run α :=
  throw (.usage (usageText path c ⟨message, true⟩))

/-- How messages name a parameter. -/
def Param.hint : Param → String
  | .option o => " / ".intercalate (o.names.map fun n => "'" ++ n ++ "'")
  | .argument a => "'" ++ a.metavar ++ "'"

/-- A name's first letter in upper case. -/
def titled (s : String) : String :=
  match s.toList with
  | c :: rest => String.ofList (c.toUpper :: rest)
  | [] => s

/-- Checks a path value by its rule; the resolved path, or the reason it fails. -/
def checkPath (rule : PathRule) (given : String) : Run (Except String FsPath) := do
  let w ← get
  let p := FsPath.parse given
  let resolved := FsPath.resolved w.cwd p
  let noun := titled rule.noun
  match w.store.stat w.cwd resolved with
  | .error _ =>
    if rule.mustExist then return .error (noun ++ " " ++ quote given ++ " does not exist.")
    else return .ok resolved
  | .ok entry =>
    let isFile := match entry with
      | .file _ => true
      | .dir _ => false
    if !rule.fileOkay && isFile then return .error (noun ++ " " ++ quote given ++ " is a file.")
    if !rule.dirOkay && !isFile then
      return .error (noun ++ " '" ++ given ++ "' is a directory.")
    if rule.readable && !(← act (access resolved 4)) then
      return .error (noun ++ " " ++ quote given ++ " is not readable.")
    if rule.writable && !(← act (access resolved 2)) then
      return .error (noun ++ " " ++ quote given ++ " is not writable.")
    return .ok resolved

/-- Converts one given text to a value of a type. -/
def convert (type : ValueType) (given : String) : Run (Except String ParamValue) := do
  match type with
  | .text => return .ok (.text given)
  | .choice os =>
    if os.contains given then return .ok (.text given)
    else return .error (quote given ++ " is not one of " ++ ", ".intercalate (os.map quote) ++ ".")
  | .path rule =>
    match ← checkPath rule given with
    | .ok p => return .ok (.path p)
    | .error m => return .error m

/-- Converts the texts given to a parameter; the first that fails is a usage error. -/
def convertAll (path : String) (c : Command) (p : Param) (type : ValueType) :
    List String → Run (List ParamValue)
  | [] => pure []
  | t :: ts => do
    match ← convert type t with
    | .error m => failUsage path c ("Invalid value for " ++ p.hint ++ ": " ++ m)
    | .ok v =>
      let vs ← convertAll path c p type ts
      return v :: vs

/-- The texts each argument takes from the texts left: one each, in order, and all that remain
for an argument that takes many (after those that follow it). Returns the texts per argument and
those left over. -/
def distribute (args : List ArgumentSpec) (texts : List String) :
    List (String × Option (List String)) × List String :=
  match args.findIdx? (·.many) with
  | none =>
    let taken := args.zipIdx.map fun (a, i) => (a.dest, (texts[i]?).map ([·]))
    (taken, texts.drop args.length)
  | some k =>
    let after := args.length - k - 1
    let front := (args.take k).zipIdx.map fun (a, i) => (a.dest, (texts[i]?).map ([·]))
    let rest := texts.drop k
    let middle := rest.take (rest.length - after)
    let back := rest.drop (rest.length - after)
    let backTaken := (args.drop (k + 1)).zipIdx.map fun (a, i) => (a.dest, (back[i]?).map ([·]))
    (front ++ [((args.getD k ⟨"", false, true, .text, ""⟩).dest, some middle)] ++ backTaken, [])

/-- Processes one parameter of the command reached by `path`. -/
def processParam (path : String) (c : Command) (r : Reading)
    (taken : List (String × Option (List String))) (p : Param) : Run (String × ParamValue) := do
  match p with
  | .option o =>
    match o.kind, r.last? o.dest with
    | .help, some _ => do
      act (echo (helpPage path c ++ "\n"))
      throw (.exit 0)
    | .help, none => return (o.dest, .switch false)
    | .switch on _, none => return (o.dest, .switch on)
    | .switch _ _, some (.switch b) => return (o.dest, .switch b)
    | .switch on _, some (.text _) => return (o.dest, .switch on)
    | .value _, none => return (o.dest, .none)
    | .value t, some (.text s) => do
      match ← convertAll path c p t [s] with
      | [v] => return (o.dest, v)
      | _ => return (o.dest, .none)
    | .value _, some (.switch _) => return (o.dest, .none)
  | .argument a =>
    let texts := ((taken.find? (·.1 == a.dest)).map (·.2)).getD none
    match texts with
    | none =>
      if a.required then failUsage path c ("Missing argument " ++ p.hint ++ ".")
      else return (a.dest, .none)
    | some ts =>
      if a.many && ts.isEmpty then
        if a.required then failUsage path c ("Missing argument " ++ p.hint ++ ".")
        else return (a.dest, .none)
      else do
        let vs ← convertAll path c p a.type ts
        if a.many then
          return (a.dest, .paths (vs.filterMap fun v => match v with
            | .path q => some q
            | _ => none))
        else return (a.dest, vs.headD .none)

/-- The order parameters are processed in. -/
def processingOrder (c : Command) (r : Reading) : List Param :=
  let isEager (p : Param) := match p with
    | .option o => o.eager
    | .argument _ => false
  let givenRank (p : Param) : Option Nat := match p with
    | .option o => r.order.findIdx? (· == o.dest)
    | .argument _ => some (r.order.length + (c.arguments.findIdx? (· == (match p with
        | .argument a => a
        | .option _ => ⟨"", false, false, .text, ""⟩))).getD 0)
  let ranked (eager : Bool) : List Param :=
    let mine := c.params.filter fun p => isEager p == eager
    let given := (mine.filterMap fun p => (givenRank p).map (·, p)).mergeSort fun x y => x.1 ≤ y.1
    given.map (·.2) ++ mine.filter fun p => (givenRank p).isNone
  ranked true ++ ranked false

/-- Processes all parameters of the command reached by `path`, handing each value to `react` as
soon as it is processed; its values, and the texts left. -/
def processAll (path : String) (c : Command) (r : Reading)
    (react : String → ParamValue → Run Unit) : Run (Params × List String) := do
  let (taken, extra) := distribute c.arguments r.positional
  let mut values : Params := []
  for p in processingOrder c r do
    let (dest, v) ← processParam path c r taken p
    react dest v
    values := values ++ [(dest, v)]
  return (values, extra)

/-- Reads the texts of the command reached by `path`, or stops with the usage error. -/
def readOrFail (path : String) (c : Command) (args : List String) : Run Reading :=
  match c.read args with
  | .ok r => pure r
  | .error e => throw (.usage (usageText path c e))

/-- What a program adds to its command tree: the step a value sets off as soon as it is
processed, given the names below the root of the command it belongs to; the step of each group
before its command, given the group's names, its values, and whether a command follows; and the
step of each command that runs. -/
structure Program where
  root : Command
  rootName : String
  onValue : List String → String → ParamValue → Run Unit
  atGroup : List String → Params → Bool → Run Unit
  body : List String → Params → Run Unit

/-- Runs a command reached by `names` below the root (shown as `path`) with its texts, within
`fuel` levels of groups. -/
def runCommand (prog : Program) : Nat → List String → String → Command → List String → Run Unit
  | 0, _, _, _, _ => pure ()
  | fuel + 1, names, path, c, args => do
    match c with
    | .leaf .. =>
      let r ← readOrFail path c args
      let (values, extra) ← processAll path c r (prog.onValue names)
      if !extra.isEmpty then
        let noun := if extra.length == 1 then "argument" else "arguments"
        failUsage path c ("Got unexpected extra " ++ noun ++ " (" ++ " ".intercalate extra ++ ")")
      prog.body names values
    | .group _ _ _ subs helpWithoutArgs runsAlone =>
      if args.isEmpty && helpWithoutArgs then
        act (echo (helpPage path c ++ "\n"))
        throw (.exit 0)
      let r ← readOrFail path c args
      let (values, _) ← processAll path c ⟨r.given, []⟩ (prog.onValue names)
      match r.positional with
      | [] =>
        if runsAlone then prog.atGroup names values false
        else failUsage path c "Missing command."
      | name :: rest =>
        match subs.find? (·.name == name) with
        | none => failUsage path c ("No such command " ++ quote name ++ ".")
        | some sub =>
          prog.atGroup names values true
          runCommand prog fuel (names ++ [name]) (path ++ " " ++ name) sub rest

/-- How a run ended: its exit code, and the fault that escaped, if one did. -/
structure Ending where
  code : Nat
  escaped : Option Fault

/-- Runs a program with its texts. Usage errors are shown; a program that gives up prints
`Aborted!`. -/
def Program.run (prog : Program) (args : List String) : Run Ending := do
  let w ← get
  match (runCommand prog 8 [] prog.rootName prog.root args).run w with
  | .ok _ w => set w; return ⟨0, none⟩
  | .error (.exit code) w => set w; return ⟨code, none⟩
  | .error (.usage text) w => set w; act (echo text); return ⟨2, none⟩
  | .error (.fault .aborted) w => set w; act (echo "Aborted!\n"); return ⟨1, none⟩
  | .error (.fault f) w => set w; return ⟨1, some f⟩

/-- One line of the terminal's input, without its line end; empty at the end of the input. -/
def readLine : Run String := do
  let w ← get
  let line := w.input.takeWhile (· != '\n')
  set { w with input := w.input.drop (line.length + 1) }
  return String.ofList (line.reverse.dropWhile (fun c => c == '\r' || c == '\n')).reverse

/-- Asks a yes-or-no question, no by default, until the answer is understood; the input's end
answers no. -/
def confirm (question : String) : Run Bool := do
  let lines := (← get).input.count '\n' + 2
  let rec ask : Nat → Run Bool
    | 0 => pure false
    | fuel + 1 => do
      act (echo (question ++ " [y/N]:"))
      let answer ← readLine
      act (echo (" " ++ answer ++ "\n"))
      let word := trimBlanks (lowerText answer)
      if word == "y" || word == "yes" then return true
      else if word == "n" || word == "no" || word == "" then return false
      else
        act (echo "Error: invalid input\n")
        ask fuel
  ask lines

end GinSave.Cli
