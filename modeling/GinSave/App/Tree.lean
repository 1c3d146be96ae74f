import GinSave.Cli.Spec

/-!
The program's command line: `mio-decomp` with the commands `check`, `compile-save`, `config`
(`get`, `list`, `reset`, `set`), `decompile`, `parse` and `version`, and the root options
`-v`/`--version` and the two shell-completion options.
-/

namespace GinSave.App

open GinSave.Cli

/-- The program's name on the command line. -/
def programName : String := "mio-decomp"

/-- The program's version. -/
def programVersion : String := "0.3.1"

/-- The shells completion can be set up for. -/
def shells : List String := ["bash", "zsh", "fish", "powershell", "pwsh"]

/-- A file that must exist and be readable. -/
def inputFileRule : PathRule := ⟨true, true, false, true, false⟩

/-- A file that may be new; an existing one must be writable. -/
def outputFileRule : PathRule := ⟨false, true, false, false, true⟩

/-- A directory that may be new; an existing one must be writable. -/
def outputDirRule : PathRule := ⟨false, false, true, false, true⟩

/-- A file or directory that must exist and be readable. -/
def inputPathRule : PathRule := ⟨true, true, true, true, false⟩

/-- The option naming where a command writes. -/
def outputOption (dest help : String) (rule : PathRule) : Param :=
  .option ⟨dest, ["-o", "--output", "--output-dir"], .value (.path rule), help, false⟩

/-- `check FILE`. -/
def checkCommand : Command :=
  .leaf "check" "Checks the magic number of a file to determine if it is a .gin file."
    [.argument ⟨"target_file", true, false, .path inputFileRule, "The path to the file."⟩]

/-- `compile-save JSON [-o FILE]`. -/
def compileCommand : Command :=
  .leaf "compile-save" "Parses a MIO JSON file into MIO .save."
    [.argument ⟨"json_file", true, false, .path inputFileRule,
      "The path to the JSON file to parse."⟩,
     outputOption "output_file" ("The file to output the MIO .save to. Will be overwritten if " ++
      "it exists. Will be printed to console if omitted.") outputFileRule]

/-- `parse SAVE [-o FILE]`. -/
def parseCommand : Command :=
  .leaf "parse" "Parses a MIO .save file into JSON."
    [.argument ⟨"save_file", true, false, .path inputFileRule,
      "The path to the .save file to parse."⟩,
     outputOption "output_file" ("The file to output the JSON to. Will be overwritten if it " ++
      "exists. Will be printed to console if omitted.") outputFileRule]

/-- `decompile [-o DIR] [PATHS]...`, with the switches `--structure` and `--debug`. -/
def decompileCommand : Command :=
  .leaf "decompile" "Decompiles .gin files."
    [outputOption "output_dir" ("The directory to output the decompiled .gin files to. Any " ++
      "files or directories inside the provided directory will be deleted.") outputDirRule,
     .argument ⟨"input_paths", false, true, .path inputPathRule,
      "The paths to the input .gin files. If omitted, will decompile all of the .gin files " ++
      "in the flamby folder inside of your install of MIO."⟩,
     .option ⟨"structure", ["--structure"], .switch true ["--no-structure"],
      "Structure the outputted files according to the filepaths in their binaries.", false⟩,
     .option ⟨"debug", ["--debug"], .switch false ["--no-debug"],
      "Enables print statements used in debugging.", false⟩]

/-- `version`. -/
def versionCommand : Command :=
  .leaf "version" "Prints the currently installed version of the package." []

/-- `config get KEY`. -/
def configGet : Command :=
  .leaf "get" "Gets the value of a key in the configuration."
    [.argument ⟨"key", true, false, .text, "The key to get the value of. Must be a valid key."⟩]

/-- `config list [--json]`. -/
def configList : Command :=
  .leaf "list" "Lists all key-value pairs in the current configuration."
    [.option ⟨"json", ["--json"], .switch false ["--no-json"], "Returns the pairs as JSON.",
      false⟩]

/-- `config reset [--confirm]`. -/
def configReset : Command :=
  .leaf "reset" "Resets your configuration to the default."
    [.option ⟨"confirm", ["--confirm"], .switch false ["--no-confirm"],
      "Confirm that you want to reset your configuration.", false⟩]

/-- `config set KEY VALUE`. -/
def configSet : Command :=
  .leaf "set" "Set the value of a key in the configuration."
    [.argument ⟨"key", true, false, .text, "The key to set. Must be a valid key."⟩,
     .argument ⟨"value", true, false, .text, "The value to set the key to."⟩]

/-- `config`: the settings' commands. -/
def configCommand : Command :=
  .group "config" "View and edit the extension's configuration." []
    [configGet, configList, configReset, configSet] true false

/-- The whole command line. -/
def rootCommand : Command :=
  .group programName
    "MIO-Decomp: A CLI for decompiling the .gin files from MIO: Memories in Orbit."
    [.option ⟨"version", ["--version", "-v"], .switch false [], "Prints the version of the package.",
      true⟩,
     .option ⟨"install_completion", ["--install-completion"], .value (.choice shells),
      "Install completion for the specified shell.", false⟩,
     .option ⟨"show_completion", ["--show-completion"], .value (.choice shells),
      "Show completion for the specified shell, to copy it or customize the installation.", false⟩]
    [checkCommand, compileCommand, configCommand, decompileCommand, parseCommand, versionCommand]
    false true

end GinSave.App
