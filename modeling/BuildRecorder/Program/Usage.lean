import BuildRecorder.Text.Basic

/-!
# Usage texts

What the two programs print about themselves.
-/

namespace BuildRecorder.Program

def programName : Text := "compileCommandsLogger.py"

def versionLine : Text := programName ++ " 1.0.0\n"

def textOfLines (lines : List String) : Text := lines.flatMap fun line => Text.ofString line ++ "\n"

def usage : Text :=
  textOfLines [
    "usage: compileCommandsLogger.py [-h] [--parameters PARAMS] [--output FILE]",
    "                                [--task NAME] [--mode \x7bmerge,stream\x7d]",
    "                                [--strategy \x7bauto,first-token,cl-marker\x7d]",
    "                                [--marker MARKER] [--no-color] [--verbose]",
    "                                [--version]",
    "                                [events]"]

def help : Text :=
  usage ++ textOfLines [
    "",
    "Generate compile_commands.json from MSBuild compiler task events.",
    "",
    "positional arguments:",
    "  events                JSON Lines file of task command line events (default:",
    "                        stdin)",
    "",
    "options:",
    "  -h, --help            show this help message and exit",
    "  --parameters PARAMS, -p PARAMS",
    "                        Logger parameters: comma separated path:<file>,",
    "                        task:<name>, mode:<merge|stream>",
    "  --output FILE, -o FILE",
    "                        Output file (overrides path: parameter)",
    "  --task NAME           Additional task name substring to record (overrides",
    "                        task: parameter)",
    "  --mode \x7bmerge,stream\x7d",
    "                        Store discipline (overrides mode: parameter, default:",
    "                        merge)",
    "  --strategy \x7bauto,first-token,cl-marker\x7d",
    "                        How to find the compiler executable in a command line",
    "                        (default: auto)",
    "  --marker MARKER       Compiler executable file name (default: cl.exe)",
    "  --no-color            Disable colored output",
    "  --verbose, -v         Enable verbose output to stderr",
    "  --version             show program's version number and exit",
    "",
    "Version 1.0.0",
    "",
    "Examples:",
    "  compileCommandsLogger.py events.jsonl",
    "  compileCommandsLogger.py events.jsonl --parameters " ++
      "path:build/compile_commands.json,task:DistCL",
    "  compileCommandsLogger.py - --mode stream < events.jsonl"]

def packagesProgramName : Text := "package_verification.py"

def packagesUsage : Text :=
  textOfLines [
    "usage: package_verification.py [-h] [--check-all]"]

def packagesHelp : Text :=
  packagesUsage ++ textOfLines [
    "",
    "Verify compile commands logger package dependencies",
    "",
    "options:",
    "  -h, --help   show this help message and exit",
    "  --check-all  Check all known runtime packages"]

def argumentError (usage name message : Text) : Text :=
  usage ++ name ++ ": error: " ++ message ++ "\n"

end BuildRecorder.Program
