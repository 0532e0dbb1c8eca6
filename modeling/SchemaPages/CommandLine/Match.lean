import SchemaPages.CommandLine.Option
/-!
# Matching arguments

Arguments are matched from the left. An option without a value yet waits for the next argument, and
a value counts only when the next option or argument comes, or the end: so an option that does not
exist is found before a value that does not fit.

* `UsageError`: why arguments are refused, or what they ask for instead of a command;
* `Matches`: what has been given at one level;
* `matchArguments`: what has been given at each level, outermost first.
-/

namespace SchemaPages.CommandLine

/-- Why arguments are refused, or what they ask for instead of a command. -/
inductive UsageError where
  | help
  | version
  /-- Nothing at all is given where a command is needed. -/
  | nothingGiven
  | missingCommand
  | unknownCommand
  | missingArgument
  | unknownArgument
  | badValue
  | unwantedValue
  | conflict
  deriving DecidableEq, Repr

/-- The exit code of the program. -/
def UsageError.exitCode : UsageError → Nat
  | .help => 0
  | .version => 0
  | _ => 2

/-! ## 1. Matches -/

/-- What has been given at one level. -/
structure Matches where
  /-- Values by the names of their options; one that takes nothing has an empty one. -/
  values : List (String × String) := []
  /-- How often more messages are asked for. -/
  verbosity : Nat := 0
  /-- The option or argument that came last, with its value if it has one yet. -/
  pending : Option (OptionSpec × Option String) := none
  /-- Whether only arguments may follow. -/
  argumentsOnly : Bool := false
  deriving DecidableEq, Repr, Inhabited

namespace Matches

/-- The value of an option. -/
def value? (m : Matches) (name : String) : Option String := m.values.lookup name

/-- Whether an option is given. -/
def has (m : Matches) (name : String) : Bool := (m.value? name).isSome

/-- The greatest count. -/
def maxCount : Nat := 255

/-- An option with its value. No option comes twice. -/
def record (m : Matches) (o : OptionSpec) (v : String) : Except UsageError Matches :=
  if m.has o.name then .error .conflict
  else if o.takes.accepts v then .ok { m with values := m.values ++ [(o.name, v)] }
  else .error .badValue

/-- The same matches after the option or argument that came last has been looked at. -/
def settle (m : Matches) : Except UsageError Matches :=
  match m.pending with
  | none => .ok m
  | some (_, none) => .error .badValue
  | some (o, some v) => { m with pending := none }.record o v

/-- An option that takes no value. -/
def flag (m : Matches) (o : OptionSpec) : Except UsageError Matches := do
  let m ← m.settle
  match o.takes with
  | .help => throw .help
  | .version => throw .version
  | .repetition => return { m with verbosity := min maxCount (m.verbosity + 1) }
  | _ => m.record o ""

/-- An option whose value is to follow. -/
def await (m : Matches) (o : OptionSpec) : Except UsageError Matches :=
  m.settle.map fun m => { m with pending := some (o, none) }

/-- An option with a value attached to it. -/
def attached (m : Matches) (o : OptionSpec) (v : String) : Except UsageError Matches := do
  (← m.settle).record o v

/-- The option that waits for its value. -/
def awaiting? (m : Matches) : Option OptionSpec :=
  match m.pending with
  | some (o, none) => some o
  | _ => none

/-- Whether anything is given. -/
def isGiven (m : Matches) : Bool := m.values ≠ [] || m.verbosity ≠ 0

end Matches

/-! ## 2. Single arguments -/

/-- An argument that begins with two hyphens, as an option with a value or without. -/
def longOption? (arg : String) : Option (String × Option String) :=
  (Text.dropStart? "--" arg).map fun s =>
    match Text.cutAt? '=' s with
    | some (name, v) => (name, some v)
    | none => (s, none)

/-- An argument that begins with one hyphen, as the short options that it holds. -/
def shortOptions? (arg : String) : Option (List Char) :=
  match arg.toList with
  | '-' :: c :: rest => if c = '-' then none else some (c :: rest)
  | _ => none

/-- Takes a long option. -/
def takeLong (l : Level) (m : Matches) (name : String) (v : Option String) :
    Except UsageError Matches :=
  match l.long? name with
  | none => .error .unknownArgument
  | some o =>
    match o.takes.needsValue, v with
    | true, some v => m.attached o v
    | true, none => m.await o
    | false, some _ => .error .unwantedValue
    | false, none => m.flag o

/-- Takes short options. The first one that needs a value has the rest as its value, if there is
one. -/
def takeShort (l : Level) (m : Matches) : List Char → Except UsageError Matches
  | [] => .ok m
  | c :: rest =>
    match l.short? c with
    | none => .error .unknownArgument
    | some o =>
      if o.takes.needsValue then
        match rest with
        | [] => m.await o
        | '=' :: v => m.attached o (String.ofList v)
        | v => m.attached o (String.ofList v)
      else do takeShort l (← m.flag o) rest

/-- Takes an argument that is no option. -/
def takeArgument (l : Level) (m : Matches) (arg : String) : Except UsageError Matches :=
  match l.argument? with
  | some o =>
    if m.has o.name ∨ m.pending.any (·.1.name == o.name) then .error .unknownArgument
    else m.settle.map fun m => { m with pending := some (o, some arg) }
  | none => .error (if l.commands = [] then .unknownArgument else .unknownCommand)

/-! ## 3. All arguments -/

/-- What follows from asking for help on some command. -/
def helpOn (l : Level) : List String → UsageError
  | [] => .help
  | name :: rest =>
    match l.commands.lookup name with
    | some inner => helpOn inner rest
    | none => if name = "help" ∧ l.commands ≠ [] ∧ rest = [] then .help else .unknownCommand

/-- Checks what has been given at a level at its end, or before the command that follows. A settings
file that the environment names is looked at where the level names none, and counts as given. -/
def finish (named : Option String) (l : Level) (m : Matches) (hasCommand : Bool) :
    Except UsageError Matches := do
  let m ← m.settle
  if !m.has "config" ∧ named = some "" then throw .badValue
  if !hasCommand ∧ l.commands ≠ [] then
    throw (if m.isGiven || named.isSome then .missingCommand else .nothingGiven)
  if m.has "quiet" ∧ m.verbosity ≠ 0 then throw .conflict
  if let some o := l.argument? then
    if !m.has o.name then throw .missingArgument
  return m

/-- Matches the arguments of a level and of the commands below it. -/
def matchFrom (named : Option String) (l : Level) (m : Matches) :
    List String → Except UsageError (List (Level × Matches))
  | [] => (finish named l m false).map fun m => [(l, m)]
  | arg :: rest =>
    if m.argumentsOnly then do matchFrom named l (← takeArgument l m arg) rest
    else
      match m.awaiting?, l.commands.lookup arg with
      | none, some inner => do
        let found ← matchFrom named inner {} rest
        let m ← finish named l m true
        return (l, m) :: found
      | awaiting, _ =>
        if awaiting = none ∧ arg = "help" ∧ l.commands ≠ [] then .error (helpOn l rest)
        else if arg = "--" then matchFrom named l { m with argumentsOnly := true } rest
        else
          match longOption? arg, shortOptions? arg, awaiting with
          | some (name, v), _, _ => do matchFrom named l (← takeLong l m name v) rest
          | none, some cs, _ => do matchFrom named l (← takeShort l m cs) rest
          | none, none, some o => matchFrom named l { m with pending := some (o, some arg) } rest
          | none, none, none => do matchFrom named l (← takeArgument l m arg) rest

/-- What the arguments of the program give at each level, outermost first. -/
def matchArguments (named : Option String) (args : List String) :
    Except UsageError (List (Level × Matches)) :=
  matchFrom named .program {} args

end SchemaPages.CommandLine
