/-!
# Arguments

Options and operands in a list of arguments, and the commands that they stand for. An option is written in full behind
two dashes or as a letter behind one, where several letters may stand together; its value is attached, behind an equals
sign if need be, or is the next argument. Behind `--` all arguments are operands. Three options may stand before the
command or behind it; behind it they count more.
-/

namespace SchemaMutation.CommandLine

/-- Why arguments ask for nothing that can be run. -/
inductive Refusal where
  | usage
  | version
  | help
deriving DecidableEq, Repr

/-- What an option does. -/
inductive Effect where
  /-- It stands without a value, once. -/
  | flag
  /-- It takes a value, once. -/
  | text
  /-- It takes the path of a file, which is not empty, once. -/
  | path
  /-- It takes a value each time it is given. -/
  | texts
  /-- It ends the reading of arguments. -/
  | stop (refusal : Refusal)
deriving DecidableEq, Repr

structure Switch where
  name : String
  letter : Option Char
  effect : Effect
deriving DecidableEq, Repr

/-- Options that have been given, the last one first. -/
abbrev Given := List (String × String)

def Given.values (given : Given) (name : String) : List String := (given.filter (·.1 == name)).reverse.map (·.2)

def Given.value? (given : Given) (name : String) : Option String := given.lookup name

def Switch.give (s : Switch) (value : String) (given : Given) : Except Refusal Given :=
  if s.effect ≠ .texts ∧ (given.value? s.name).isSome then .error .usage
  else if s.effect = .path ∧ value.isEmpty then .error .usage
  else .ok ((s.name, value) :: given)

/-- Where the reading of an argument has led. -/
inductive Progress where
  | operand
  | given (options : Given)
  /-- The option takes the next argument as its value. -/
  | awaiting (switch : Switch) (options : Given)

/-- Reads an option that is written in full, from behind its dashes. -/
def readName (switches : List Switch) (given : Given) (text : List Char) : Except Refusal Progress :=
  let name := text.takeWhile (· != '=')
  let attached := text.drop name.length
  match switches.find? (·.name == String.ofList name), attached with
  | none, _ => .error .usage
  | some s, '=' :: value =>
    match s.effect with
    | .flag => .error .usage
    | .stop _ => .error .usage
    | _ => (s.give (String.ofList value) given).map .given
  | some s, _ =>
    match s.effect with
    | .flag => (s.give "" given).map .given
    | .stop refusal => .error refusal
    | _ => .ok (.awaiting s given)

def attachedValue : List Char → List Char
  | '=' :: value => value
  | value => value

def readLetters (switches : List Switch) (given : Given) : List Char → Except Refusal Progress
  | [] => .ok (.given given)
  | c :: rest =>
    match switches.find? (·.letter == some c) with
    | none => .error .usage
    | some s =>
      match s.effect with
      | .flag => do readLetters switches (← s.give "" given) rest
      | .stop refusal => .error refusal
      | _ =>
        if rest.isEmpty then .ok (.awaiting s given)
        else (s.give (String.ofList (attachedValue rest)) given).map .given

/-- Reads one argument. A single dash is an operand. -/
def readArgument (switches : List Switch) (given : Given) (arg : String) : Except Refusal Progress :=
  match arg.toList with
  | '-' :: '-' :: text => readName switches given text
  | '-' :: c :: rest => readLetters switches given (c :: rest)
  | _ => .ok .operand

/-- Whether an argument cannot be the value of the option before it. -/
def looksLikeOption (arg : String) : Bool :=
  match arg.toList with
  | '-' :: _ :: _ => true
  | _ => false

/-- Reads options up to the first operand or `--`. -/
def readOptions (switches : List Switch) (given : Given) : List String → Except Refusal (Given × List String)
  | [] => .ok (given, [])
  | "--" :: rest => .ok (given, "--" :: rest)
  | [arg] => do
    match ← readArgument switches given arg with
    | .operand => .ok (given, [arg])
    | .given more => .ok (more, [])
    | .awaiting _ _ => .error .usage
  | arg :: next :: rest => do
    match ← readArgument switches given arg with
    | .operand => .ok (given, arg :: next :: rest)
    | .given more => readOptions switches more (next :: rest)
    | .awaiting s more =>
      if looksLikeOption next then .error .usage else readOptions switches (← s.give next more) rest

/-- Reads options and operands in any order. Each operand takes one unit of `fuel`. -/
def readOperands (switches : List Switch) : Nat → Given → List String → Except Refusal (Given × List String)
  | 0, given, _ => .ok (given, [])
  | fuel + 1, given, args => do
    match ← readOptions switches given args with
    | (given, []) => .ok (given, [])
    | (given, "--" :: rest) => .ok (given, rest)
    | (given, operand :: rest) => do
      let (given, operands) ← readOperands switches fuel given rest
      .ok (given, operand :: operands)

inductive Command where
  | discover (block : List String) (out : Option String)
  | compile (snapshot query : String) (vars : Option String)
  | table (schema name : String)
  | blocked (name : String) (patterns : List String)
deriving DecidableEq, Repr

structure Invocation where
  config : Option String
  databaseUrl : Option String
  verbose : Bool
  command : Command
deriving DecidableEq, Repr

def sharedSwitches : List Switch := [
  ⟨"config", some 'c', .path⟩,
  ⟨"database-url", none, .text⟩,
  ⟨"verbose", some 'v', .flag⟩,
  ⟨"help", some 'h', .stop .help⟩]

def leadingSwitches : List Switch := sharedSwitches ++ [⟨"version", some 'V', .stop .version⟩]

/-- The options of each command besides those that all take. -/
def commandSwitches : List (String × List Switch) := [
  ("discover", [⟨"block", some 'b', .texts⟩, ⟨"out", some 'o', .path⟩]),
  ("compile", [⟨"snapshot", some 's', .path⟩, ⟨"query", some 'q', .path⟩, ⟨"vars", none, .path⟩]),
  ("table", []),
  ("blocked", [])]

/-- The command of a name with its options and operands, if they suit it. -/
def Command.of? (name : String) (given : Given) (operands : List String) : Option Command :=
  match name, operands with
  | "discover", [] => some (.discover (given.values "block") (given.value? "out"))
  | "compile", [] => do some (.compile (← given.value? "snapshot") (← given.value? "query") (given.value? "vars"))
  | "table", [schema, relation] => some (.table schema relation)
  | "blocked", subject :: patterns => some (.blocked subject patterns)
  | _, _ => none

def Invocation.ofArguments (args : List String) : Except Refusal Invocation := do
  match ← readOptions leadingSwitches [] args with
  | (_, []) => throw .usage
  | (before, name :: rest) =>
    match commandSwitches.lookup name with
    | some switches => do
      let (behind, operands) ← readOperands (switches ++ sharedSwitches) (rest.length + 1) [] rest
      match Command.of? name behind operands with
      | some command => return {
          config := (behind.value? "config").or (before.value? "config")
          databaseUrl := (behind.value? "database-url").or (before.value? "database-url")
          verbose := (behind.value? "verbose").isSome || (before.value? "verbose").isSome
          command }
      | none => throw .usage
    | none =>
      if name = "help" ∧ rest.all (fun topic => (commandSwitches.lookup topic).isSome) then throw .help
      else throw .usage

end SchemaMutation.CommandLine
