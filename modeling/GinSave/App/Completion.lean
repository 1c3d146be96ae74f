import GinSave.Cli.Run

/-!
Shell completion for a program. Completion works by the shell calling the program back with an
environment variable set: `_NAME_COMPLETE` for a program `name`, upper-cased with `-` read as `_`.
A completion script, one per shell, registers that call with the shell.

`--show-completion SHELL` prints the script. `--install-completion SHELL` writes it where the shell
looks for it below the home directory, adds the lines that load it to the shell's start-up file
when they are missing, and tells where it went. PowerShell's profile can only be found by running
PowerShell, which is not installed; installing for it fails for that reason.
-/

namespace GinSave.App

open GinSave.Cli GinSave.Store

/-- A program's name as a shell identifier: `-` read as `_`, other characters that are not ASCII
letters, digits or `_` left out. -/
def identName (prog : String) : String :=
  String.ofList ((prog.toList.map fun c => if c == '-' then '_' else c).filter fun c =>
    c.isAlphanum && c.toNat < 128 || c == '_')

/-- The shell function a script defines. -/
def completeFunction (prog : String) : String :=
  "_" ++ identName prog ++ "_completion"

/-- The environment variable that asks the program for completions. -/
def completeVariable (prog : String) : String :=
  "_" ++ String.ofList (prog.toList.map fun c => if c == '-' then '_' else c.toUpper) ++
    "_COMPLETE"

/-- The script for bash. The field separator it sets is a line end, written out in full. -/
def bashScript (prog : String) : String :=
  "\n".intercalate [
    completeFunction prog ++ "() \x7b",
    "    local IFS=$'",
    "'",
    "    COMPREPLY=( $( env COMP_WORDS=\"$\x7bCOMP_WORDS[*]\x7d\" \\",
    "                   COMP_CWORD=$COMP_CWORD \\",
    "                   " ++ completeVariable prog ++ "=complete_bash $1 ) )",
    "    return 0",
    "\x7d",
    "",
    "complete -o default -F " ++ completeFunction prog ++ " " ++ prog]

/-- The script for zsh. -/
def zshScript (prog : String) : String :=
  "\n".intercalate [
    "#compdef " ++ prog,
    "",
    completeFunction prog ++ "() \x7b",
    "  eval $(env _TYPER_COMPLETE_ARGS=\"$\x7bwords[1,$CURRENT]\x7d\" " ++ completeVariable prog ++
      "=complete_zsh " ++ prog ++ ")",
    "\x7d",
    "",
    "compdef " ++ completeFunction prog ++ " " ++ prog]

/-- The script for fish: one command. -/
def fishScript (prog : String) : String :=
  let call (action : String) : String :=
    "env " ++ completeVariable prog ++ "=complete_fish _TYPER_COMPLETE_FISH_ACTION=" ++ action ++
      " _TYPER_COMPLETE_ARGS=(commandline -cp) " ++ prog
  "complete --command " ++ prog ++ " --no-files --arguments \"(" ++ call "get-args" ++
    ")\" --condition \"" ++ call "is-args" ++ "\""

/-- The script for PowerShell. -/
def powerShellScript (prog : String) : String :=
  let var := completeVariable prog
  "\n".intercalate [
    "Import-Module PSReadLine",
    "Set-PSReadLineKeyHandler -Chord Tab -Function MenuComplete",
    "$scriptblock = \x7b",
    "    param($wordToComplete, $commandAst, $cursorPosition)",
    "    $Env:" ++ var ++ " = \"complete_powershell\"",
    "    $Env:_TYPER_COMPLETE_ARGS = $commandAst.ToString()",
    "    $Env:_TYPER_COMPLETE_WORD_TO_COMPLETE = $wordToComplete",
    "    " ++ prog ++ " | ForEach-Object \x7b",
    "        $commandArray = $_ -Split \":::\"",
    "        $command = $commandArray[0]",
    "        $helpString = $commandArray[1]",
    "        [System.Management.Automation.CompletionResult]::new(",
    "            $command, $command, 'ParameterValue', $helpString)",
    "    \x7d",
    "    $Env:" ++ var ++ " = \"\"",
    "    $Env:_TYPER_COMPLETE_ARGS = \"\"",
    "    $Env:_TYPER_COMPLETE_WORD_TO_COMPLETE = \"\"",
    "\x7d",
    "Register-ArgumentCompleter -Native -CommandName " ++ prog ++ " -ScriptBlock $scriptblock"]

/-- The completion script of a shell, if the shell is known. -/
def completionScript (prog shell : String) : Option String :=
  match shell with
  | "bash" => some (bashScript prog)
  | "zsh" => some (zshScript prog)
  | "fish" => some (fishScript prog)
  | "powershell" | "pwsh" => some (powerShellScript prog)
  | _ => none

/-- The lines a start-up file must hold for a script to load. -/
def loadLines (prog shell : String) (home : FsPath) : List String :=
  match shell with
  | "bash" => ["source " ++ (home.join (".bash_completions/" ++ prog ++ ".sh")).text]
  | "zsh" => ["autoload -Uz compinit", "compinit", "zstyle ':completion:*' menu select",
      "fpath+=~/.zfunc"]
  | _ => []

/-- A start-up file with the missing load lines added, each on a line of its own, and a last
line end. -/
def withLoadLines (content : String) (lines : List String) : String :=
  lines.foldl (fun acc l => if (acc.splitOn l).length > 1 then acc else acc ++ "\n" ++ l)
    content ++ "\n"

/-- Adds the load lines to a start-up file, making it if it is missing. -/
def addLoadLines (rc : FsPath) (lines : List String) : Act Unit := do
  mkdir rc.parent 0o777 true true
  let content ← if ← isFile? rc then readText rc else pure ""
  writeFile rc (withLoadLines content lines).toUTF8

/-- Writes a text to a file, making its directory first. -/
def writeWithParents (p : FsPath) (text : String) : Act Unit := do
  mkdir p.parent 0o777 true true
  writeFile p text.toUTF8

/-- Installs a shell's script below the home directory: the file it was written to. -/
def installScript (prog shell : String) (home : FsPath) (script : String) : Act FsPath := do
  match shell with
  | "bash" =>
    addLoadLines (home.join ".bashrc") (loadLines prog shell home)
    let p := home.join (".bash_completions/" ++ prog ++ ".sh")
    writeWithParents p script
    return p
  | "zsh" =>
    addLoadLines (home.join ".zshrc") (loadLines prog shell home)
    let p := home.join (".zfunc/_" ++ prog)
    writeWithParents p script
    return p
  | "fish" =>
    let p := home.join (".config/fish/completions/" ++ prog ++ ".fish")
    writeWithParents p (script ++ "\n")
    return p
  | _ => throw (.noProgram ("<Shells." ++ shell ++ ": '" ++ shell ++ "'>"))

/-- What a completion option does once its shell is read: show prints the script, install writes
it and tells where; either ends the run. -/
def completionStep (prog : String) (home : FsPath) (dest : String) (v : ParamValue) :
    Run Unit := do
  match dest, v with
  | "show_completion", .text shell =>
    if let some script := completionScript prog shell then
      act (echo (script ++ "\n"))
      throw (.exit 0)
  | "install_completion", .text shell =>
    if let some script := completionScript prog shell then
      let p ← act (installScript prog shell home script)
      act (echo ("Shells." ++ shell ++ " completion installed in " ++ p.text ++ "\n"))
      act (echo "Completion will take effect once you restart the terminal\n")
      throw (.exit 0)
  | _, _ => pure ()

end GinSave.App
