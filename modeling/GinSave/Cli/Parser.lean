import GinSave.Cli.Spec
import GinSave.Cli.Suggest

/-!
Reading a command's arguments. Texts that start with `-` (and are longer than that) are options;
`--` ends the options. A command takes options anywhere among its texts; a group takes them only
before its first text that is no option, which names the command to run.

An option text is first looked up whole as a long name, or as the name before its first `=`
with the value after it. A text that starts with a single dash and is no long name is read as
short options bundled together: `-vh` is `-v -h`, and a short option that takes a value takes
the rest of the text, or else the next text, whatever it is.

Unknown options are usage errors shown with the command's usage, and suggest the long names that
are close. A missing value, or a value given to a switch, is a usage error shown alone.
-/

namespace GinSave.Cli

/-- A value given for an option: a switch's state, or a text. -/
inductive Given where
  | switch (on : Bool)
  | text (s : String)
  deriving Repr, DecidableEq

/-- A usage error: its message, and whether the command's usage is shown with it. -/
structure UsageError where
  message : String
  withUsage : Bool
  deriving Repr, DecidableEq

/-- What reading a command's texts gathers: each option given, in order, and the texts left. -/
structure Reading where
  given : List (String × Given)
  positional : List String
  deriving Repr, DecidableEq

/-- Whether an option name is short: one prefix character and one name character. -/
def isShortName (name : String) : Bool :=
  let (pfx, rest) := splitOption name
  pfx.length == 1 && rest.length == 1

/-- The names of an option with the switch state each sets (`none` for an option with a value). -/
def OptionSpec.namesWithState (o : OptionSpec) : List (String × Option Bool) :=
  match o.kind with
  | .switch _ off => o.names.map (·, some true) ++ off.map (·, some false)
  | .help => o.names.map (·, some true)
  | .value _ => o.names.map (·, none)

/-- The option a name calls, with the switch state it sets. -/
def Command.optionNamed? (c : Command) (name : String) : Option (OptionSpec × Option Bool) :=
  c.options.findSome? fun o =>
    (o.namesWithState.find? (·.1 == name)).map fun (_, st) => (o, st)

/-- The command's long option names, in declared order. -/
def Command.longNames (c : Command) : List String :=
  c.options.flatMap fun o => (o.namesWithState.map (·.1)).filter (!isShortName ·)

/-- The message for an option no one has, with the close names suggested. -/
def noSuchOption (name : String) (suggested : List String) : UsageError :=
  let base := "No such option: " ++ name
  let sorted := suggested.mergeSort fun a b => a ≤ b
  let message := match sorted with
    | [] => base
    | [one] => base ++ " Did you mean " ++ one ++ "?"
    | many => base ++ " (Possible options: " ++ ", ".intercalate many ++ ")"
  ⟨message, true⟩

/-- The reading with one more option given. -/
def Reading.add (r : Reading) (o : OptionSpec) (g : Given) : Reading :=
  { r with given := r.given ++ [(o.dest, g)] }

/-- Takes the value of option `o`, called by `name`, from the texts that follow. -/
def takeValue (o : OptionSpec) (name : String) (rest : List String) (r : Reading) :
    Except UsageError (List String × Reading) :=
  match rest with
  | [] => .error ⟨"Option '" ++ name ++ "' requires an argument.", false⟩
  | v :: more => .ok (more, r.add o (.text v))

/-- Reads bundled short options, `pfx` being their prefix character. -/
def readShort (c : Command) (pfx : Char) : List Char → List String → Reading →
    Except UsageError (List String × Reading)
  | [], rest, r => .ok (rest, r)
  | ch :: more, rest, r =>
    let name := String.ofList [pfx, ch]
    match c.optionNamed? name with
    | none => .error ⟨"No such option: " ++ name, true⟩
    | some (o, some on) => readShort c pfx more rest (r.add o (.switch on))
    | some (o, none) =>
      takeValue o name (if more.isEmpty then rest else String.ofList more :: rest) r

/-- Reads one option text. -/
def readOption (c : Command) (arg : String) (rest : List String) (r : Reading) :
    Except UsageError (List String × Reading) :=
  let (name, explicit) := match arg.splitOn "=" with
    | n :: v :: vs => (n, some ("=".intercalate (v :: vs)))
    | _ => (arg, none)
  match c.optionNamed? name, isShortName name with
  | some (o, st), false =>
    match st, explicit with
    | some on, none => .ok (rest, r.add o (.switch on))
    | some _, some _ => .error ⟨"Option '" ++ name ++ "' does not take a value.", false⟩
    | none, some v => takeValue o name (v :: rest) r
    | none, none => takeValue o name rest r
  | _, _ =>
    if !arg.startsWith "--" then
      match arg.toList with
      | pfx :: chars => readShort c pfx chars rest r
      | [] => .ok (rest, r)
    else .error (noSuchOption name (closeNames name c.longNames))

/-- Reads a command's texts, within `fuel` steps. -/
def readArgs (c : Command) : Nat → List String → Reading → Except UsageError Reading
  | 0, rest, r => .ok { r with positional := r.positional ++ rest }
  | _, [], r => .ok r
  | fuel + 1, arg :: rest, r =>
    if arg == "--" then .ok { r with positional := r.positional ++ rest }
    else if arg.startsWith "-" && arg.length > 1 then
      match readOption c arg rest r with
      | .ok (rest, r) => readArgs c fuel rest r
      | .error e => .error e
    else if !c.isGroup then readArgs c fuel rest { r with positional := r.positional ++ [arg] }
    else .ok { r with positional := r.positional ++ arg :: rest }

/-- Reads all texts given to a command. -/
def Command.read (c : Command) (args : List String) : Except UsageError Reading :=
  readArgs c (args.length + 1) args ⟨[], []⟩

/-- The value last given for an option, if any. -/
def Reading.last? (r : Reading) (dest : String) : Option Given :=
  (r.given.reverse.find? (·.1 == dest)).map (·.2)

/-- Whether an option was given. -/
def Reading.gave (r : Reading) (dest : String) : Bool :=
  r.given.any (·.1 == dest)

/-- The options given, each once, in the order they were first given. -/
def Reading.order (r : Reading) : List String :=
  r.given.foldl (fun acc (d, _) => if acc.contains d then acc else acc ++ [d]) []

end GinSave.Cli
