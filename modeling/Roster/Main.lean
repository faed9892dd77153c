import Roster.CommandLine

namespace Roster.CommandLine

def usage : String :=
  "Usage: roster <COMMAND>\n\nCommands:\n" ++
    "  serve                             Run the service\n" ++
    "  health [--url URL] [--timeout N]  Ask a running service how it is\n" ++
    "  help [COMMAND]                    Print this message"

def versionText : String := "roster 0.1.0"

def Refusal.message : Refusal → String
  | help | noCommand => usage
  | version => versionText
  | unknownCommand => "error: unrecognized command"
  | unknownArgument => "error: unexpected argument"
  | missingValue => "error: a value is required"
  | surplusValue => "error: unexpected value"
  | badValue => "error: invalid value"
  | repeated => "error: the argument cannot be used multiple times"

end Roster.CommandLine

namespace Roster

def Command.text : Command → String
  | serve => "serve"
  | health url timeout => s!"health {url} {timeout}"

end Roster

/-- Waiting for connections is left to whoever embeds `Roster.Api.Service`, and so is the limit on the
time that an answer may take. -/
def main (args : List String) : IO UInt32 := do
  match Roster.CommandLine.parse args with
  | .ok command =>
    IO.println command.text
    return 0
  | .error refusal =>
    let out ← if refusal.exitCode == 0 then IO.getStdout else IO.getStderr
    out.putStrLn refusal.message
    return refusal.exitCode.toUInt32
