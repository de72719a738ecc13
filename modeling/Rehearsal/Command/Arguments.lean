import Rehearsal.Command.Words

namespace Rehearsal.Command

inductive Order
  /-- run one step; `json` asks for its response as a line of JSON -/
  | run (source : Source) (json : Bool)
  | plan (file : Text) (json : Bool)
  | interpreter
  | config
  deriving DecidableEq, Repr

inductive Request
  | version
  | help
  /-- no such command or option -/
  | unknown
  /-- a command; none if its arguments do not fit -/
  | order (o : Option Order)
  deriving DecidableEq, Repr

structure Flag where
  long : String
  short : Option Char := none
  hasValue : Bool := true
  deriving DecidableEq, Repr

structure Given where
  options : List (String × Text) := []
  rest : List Text := []
  deriving DecidableEq, Repr

namespace Given

def value? (g : Given) (long : String) : Option Text := g.options.reverse.lookup long

def has (g : Given) (long : String) : Bool := (g.value? long).isSome

def add (g : Given) (f : Flag) (value : Text) : Given :=
  { g with options := g.options ++ [(f.long, value)] }

end Given

/-- What an argument that begins with hyphens says: options without values, and perhaps one whose
value is still to come. -/
abbrev Reading := Option (List (Flag × Text) × Option Flag)

def readLong (flags : List Flag) (argument : List Nat) : Reading :=
  let name := argument.takeWhile (· != '='.toNat)
  match flags.find? (fun f => Text.points f.long == name), argument.dropWhile (· != '='.toNat) with
  | none, _ => none
  | some f, [] => some (if f.hasValue then ([], some f) else ([(f, "")], none))
  | some f, _ :: value => if f.hasValue then some ([(f, .ofPoints value)], none) else none

def readShort (flags : List Flag) : List Nat → Reading
  | [] => some ([], none)
  | n :: rest =>
    match flags.find? fun f => f.short.map Char.toNat == some n with
    | none => none
    | some f =>
      if f.hasValue then
        some (if rest.isEmpty then ([], some f) else ([(f, .ofPoints rest)], none))
      else (readShort flags rest).map fun (given, open?) => ((f, "") :: given, open?)

def readOption (flags : List Flag) (argument : Text) : Reading :=
  if Text.points "--" <+: argument.points then readLong flags argument.points
  else readShort flags (argument.points.drop 1)

def isOption (argument : Text) : Bool := Text.points "-" <+: argument.points && argument != "-"

def takeApart (flags : List Flag) (g : Given) : List Text → Option Given
  | [] => some g
  | argument :: rest =>
    if argument = "--" then some { g with rest := g.rest ++ rest }
    else if isOption argument then
      match readOption flags argument with
      | none => none
      | some (given, open?) =>
        let g := given.foldl (fun g (f, value) => g.add f value) g
        match open?, rest with
        | none, rest => takeApart flags g rest
        | some f, value :: rest => takeApart flags (g.add f value) rest
        | some _, [] => none
    else takeApart flags { g with rest := g.rest ++ [argument] } rest

def jsonFlag : Flag := { long := "--json", hasValue := false }

def sourceFlags : List Flag := [⟨"--step", some 's', true⟩, ⟨"--file", some 'f', true⟩]

def order? (command : String) (arguments : List Text) : Option Order := do
  match command with
  | "run" =>
    let g ← takeApart (jsonFlag :: sourceFlags) {} arguments
    if g.rest.isEmpty then some (.run ⟨g.value? "--step", g.value? "--file"⟩ (g.has "--json"))
    else none
  | "plan" =>
    let g ← takeApart [jsonFlag] {} arguments
    match g.rest with
    | [file] => some (.plan file (g.has "--json"))
    | _ => none
  | _ =>
    let g ← takeApart [] {} arguments
    if g.rest.isEmpty then some (if command = "interpreter" then .interpreter else .config)
    else none

def commands : List String := ["run", "plan", "interpreter", "config"]

def programFlags : List Flag := [⟨"--version", some 'v', false⟩, ⟨"--help", none, false⟩]

/-- What a command and its arguments ask for behind the options of the program. Help goes before all
else, and the version before what the command asks for. -/
def Given.request (g : Given) (arguments : List Text) : Request :=
  if g.has "--help" then .help
  else
    match arguments with
    | [] => if g.has "--version" then .version else .help
    | command :: rest =>
      match command.whole?.filter commands.contains with
      | none => .unknown
      | some command => if g.has "--version" then .version else .order (order? command rest)

def Given.read (g : Given) : List Text → Request
  | [] => g.request []
  | argument :: rest =>
    if argument = "--" then g.request rest
    else if isOption argument then
      match readOption programFlags argument with
      | none => .unknown
      | some (given, _) => read (given.foldl (fun g (f, value) => g.add f value) g) rest
    else g.request (argument :: rest)

def Request.read (arguments : List Text) : Request := Given.read {} arguments

end Rehearsal.Command
