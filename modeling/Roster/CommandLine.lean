import Roster.Text.Pieces

namespace Roster

inductive Command where
  | serve
  | health (url : String) (timeout : Nat)
  deriving DecidableEq, Repr

namespace CommandLine

/-- Why there is no command to carry out. -/
inductive Refusal where
  | help
  | version
  | noCommand
  | unknownCommand
  | unknownArgument
  | missingValue
  | surplusValue
  | badValue
  | repeated
  deriving DecidableEq, Repr

def Refusal.exitCode : Refusal → Nat
  | help | version => 0
  | _ => 2

inductive Argument where
  | separator
  | long (name : String) (value : Option String)
  | short (letter : Char)
  | plain
  deriving DecidableEq, Repr

def Argument.ofText (s : String) : Argument :=
  match s.toList with
  | ['-', '-'] => separator
  | '-' :: '-' :: cs =>
    match Text.splitFirst (· == '=') cs with
    | some (name, value) => long (String.ofList name) (some (String.ofList value))
    | none => long (String.ofList cs) none
  | '-' :: c :: _ => short c
  | _ => plain

inductive Flag where
  | url
  | timeout
  deriving DecidableEq, Repr

def Flag.ofName? : String → Option Flag
  | "url" => some url
  | "timeout" => some timeout
  | _ => none

/-- What has been given to a command so far. The last flag waits, with its value once that is known,
for what comes after it. -/
structure Given where
  url : Option String := none
  timeout : Option Nat := none
  waiting : Option (Flag × Option String) := none

namespace Given

def set (g : Given) (flag : Flag) (value : String) : Except Refusal Given :=
  match flag with
  | .url => if g.url.isSome then .error .repeated else .ok { g with url := some value }
  | .timeout =>
    if g.timeout.isSome then .error .repeated
    else match Text.natUpTo? (UInt64.size - 1) value with
      | some n => .ok { g with timeout := some n }
      | none => .error .badValue

def settle (g : Given) : Except Refusal Given :=
  match g.waiting with
  | none => .ok g
  | some (_, none) => .error .missingValue
  | some (flag, some value) => { g with waiting := none }.set flag value

def take (hasFlags : Bool) (g : Given) (s : String) : Except Refusal Given :=
  match Argument.ofText s, g.waiting with
  | .long "help" none, _ | .short 'h', _ => do
    let _ ← g.settle
    throw .help
  | .long "help" (some _), _ => .error .surplusValue
  | .long name value, _ =>
    match (Flag.ofName? name).filter fun _ ↦ hasFlags with
    | none => .error .unknownArgument
    | some flag => do
      let g ← g.settle
      match value with
      | some v => g.set flag v
      | none => return { g with waiting := some (flag, none) }
  | .plain, some (flag, none) => .ok { g with waiting := some (flag, some s) }
  | _, _ => .error .unknownArgument

def takeAll (hasFlags : Bool) (g : Given) : List String → Except Refusal Given
  | [] => g.settle
  | s :: rest =>
    if Argument.ofText s = .separator then
      if rest.isEmpty then g.settle else .error .unknownArgument
    else do takeAll hasFlags (← g.take hasFlags s) rest

end Given

def defaultUrl : String := "http://127.0.0.1:8080/health"

def defaultTimeout : Nat := 5

def commands : List String := ["serve", "health", "help"]

/-- The answer to a request for help on some topic. No command has topics of its own. -/
def helpOn : List String → Refusal
  | [] => .help
  | [topic] => if commands.contains topic then .help else .unknownCommand
  | _ => .unknownCommand

def refuse (s : String) (rest : List String) : Refusal :=
  match Argument.ofText s with
  | .long "help" none | .short 'h' => .help
  | .long "version" none | .short 'V' => .version
  | .long name value =>
    if value.isSome && ["help", "version"].contains name then .surplusValue else .unknownArgument
  | .short _ => .unknownArgument
  | .plain => .unknownCommand
  | .separator =>
    match rest with
    | [] => .noCommand
    | s :: _ => if commands.contains s then .unknownArgument else .unknownCommand

def parse : List String → Except Refusal Command
  | [] => .error .noCommand
  | "serve" :: rest => do
    let _ ← Given.takeAll false {} rest
    return .serve
  | "health" :: rest => do
    let g ← Given.takeAll true {} rest
    return .health (g.url.getD defaultUrl) (g.timeout.getD defaultTimeout)
  | "help" :: rest => .error (helpOn rest)
  | s :: rest => .error (refuse s rest)

end CommandLine

end Roster
