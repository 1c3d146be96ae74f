/-!
The command line as data: commands, their options and arguments, and what each value must be.

A command either runs or groups further commands. Its parameters are listed in the order they are
declared; every command also takes `-h`/`--help`. An option is a switch (on by its names, off by
its negated names, if any), takes one value, or asks for help. An argument takes one value, or
every value left when it is the last. Path values are checked against the store before the
command runs: whether they must exist, which kinds they may name, and whether they must be
readable or writable.
-/

namespace GinSave.Cli

/-- What a path value must be. -/
structure PathRule where
  mustExist : Bool
  fileOkay : Bool
  dirOkay : Bool
  readable : Bool
  writable : Bool
  deriving Repr, DecidableEq

/-- The word messages use for what a path names. -/
def PathRule.noun (r : PathRule) : String :=
  if r.fileOkay && !r.dirOkay then "file"
  else if r.dirOkay && !r.fileOkay then "directory"
  else "path"

/-- The type of a parameter's value. -/
inductive ValueType where
  | text
  | path (rule : PathRule)
  | choice (options : List String)
  deriving Repr, DecidableEq

/-- How an option is given. -/
inductive OptionKind where
  /-- A switch, on by the option's names and off by `offNames`; `onByDefault` is its value when
  it is not given. -/
  | switch (onByDefault : Bool) (offNames : List String)
  /-- An option that takes one value. -/
  | value (type : ValueType)
  /-- The option that shows the help page. -/
  | help
  deriving Repr, DecidableEq

/-- An option: the name its value is kept under, its names, its kind, its help, and whether it
is handled before the other parameters. -/
structure OptionSpec where
  dest : String
  names : List String
  kind : OptionKind
  help : String
  eager : Bool
  deriving Repr, DecidableEq

/-- An argument: the name its value is kept under, whether it must be given, whether it takes
every value left, its type and its help. -/
structure ArgumentSpec where
  dest : String
  required : Bool
  many : Bool
  type : ValueType
  help : String
  deriving Repr, DecidableEq

/-- A parameter of a command. -/
inductive Param where
  | option (o : OptionSpec)
  | argument (a : ArgumentSpec)
  deriving Repr, DecidableEq

/-- A command: one that runs, or a group of commands. A group may show its help when it is given
no arguments, and may run on its own when no command follows. -/
inductive Command where
  | leaf (name help : String) (params : List Param)
  | group (name help : String) (params : List Param) (commands : List Command)
      (helpWithoutArgs runsAlone : Bool)

namespace Command

/-- The command's name. -/
def name : Command → String
  | leaf n .. => n
  | group n .. => n

/-- The command's help text. -/
def help : Command → String
  | leaf _ h _ => h
  | group _ h .. => h

/-- The option that shows the help page. -/
def helpOption : OptionSpec :=
  ⟨"help", ["-h", "--help"], .help, "Show this message and exit.", true⟩

/-- The command's parameters, the help option last. -/
def params : Command → List Param
  | leaf _ _ ps => ps ++ [.option helpOption]
  | group _ _ ps .. => ps ++ [.option helpOption]

/-- The command's options. -/
def options (c : Command) : List OptionSpec :=
  c.params.filterMap fun p => match p with
    | .option o => some o
    | .argument _ => none

/-- The command's arguments. -/
def arguments (c : Command) : List ArgumentSpec :=
  c.params.filterMap fun p => match p with
    | .option _ => none
    | .argument a => some a

/-- The commands a group holds, by name. -/
def commands : Command → List Command
  | leaf .. => []
  | group _ _ _ cs .. => cs

/-- Whether the command is a group. -/
def isGroup : Command → Bool
  | leaf .. => false
  | group .. => true

end Command

/-- An option's name without its prefix of dashes. -/
def splitOption (name : String) : String × String :=
  match name.toList with
  | c :: d :: rest =>
    if c.isAlphanum then ("", name)
    else if d == c then (String.ofList [c, d], String.ofList rest)
    else (c.toString, String.ofList (d :: rest))
  | [c] => if c.isAlphanum then ("", name) else (c.toString, "")
  | [] => ("", "")

end GinSave.Cli
