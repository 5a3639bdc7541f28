/-
The program: decodes one segment of a banner, or lists the registries.
-/
import SecurityMarking.CommandLine.Run
import SecurityMarking.Yaml.Document

open SecurityMarking

/-- How the program is used. -/
def usage : String :=
  "usage: banner-segment [-h] (--segment SEGMENT | --list-registries) [--kind KIND]\n"
    ++ "                      [--portion] [--verbose] [--json]\n"

/-- The encoding of what is written. -/
def console : Encoding := .utf8

/-- Runs the command line on a fresh catalogue. -/
def main (arguments : List String) : IO UInt32 := do
  let out ← IO.getStdout
  let err ← IO.getStderr
  match CommandLine.run console (arguments.map String.toList) (.fresh Yaml.read) with
  | .ok (.finished status output errors) _ =>
    err.putStr (String.ofList errors)
    out.putStr (String.ofList output)
    return status.toUInt32
  | .ok (.refused refusal) _ =>
    let message := String.ofList (console.escape refusal.message)
    err.putStr (usage ++ "banner-segment: error: " ++ message ++ "\n")
    return 2
  | .ok .help _ =>
    out.putStr usage
    return 0
  | .error failure _ =>
    err.putStr (String.ofList (console.escape failure.message) ++ "\n")
    return 1
