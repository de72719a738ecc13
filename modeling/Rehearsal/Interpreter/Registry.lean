import Rehearsal.Interpreter.Script
import Rehearsal.Run

namespace Rehearsal.Interpreter

variable {σ : Type}

inductive Body (σ : Type)
  /-- it takes them -/
  | calls (invoke : Call → State σ → Except Failure CallResult × State σ)
  /-- it takes none -/
  | plain
  /-- where it should take calls, it has a value -/
  | value (d : Datum)

inductive Member (σ : Type)
  | value (d : Datum)
  /-- an object -/
  | object (body : Body σ)
  /-- something that makes an object when it is asked to -/
  | maker (body : Body σ)
  /-- something that fails to make an object -/
  | broken (f : Failure)

inductive Module (σ : Type)
  | members (list : List (String × Member σ))
  | broken (f : Failure)

abbrev Modules (σ : Type) := List (String × Module σ)

inductive Loaded (σ : Type)
  | unavailable
  | object (name : String) (body : Body σ) (isMember : Bool)

def Loaded.name : Loaded σ → String
  | unavailable => "UnavailableInterpreter"
  | object name .. => name

def Loaded.invoke (l : Loaded σ) (call : Call) (s : State σ) :
    Except Failure CallResult × State σ :=
  match l with
  | unavailable => Run.noInterpreter call s
  | object _ (.calls invoke) _ => invoke call s
  | object name .plain _ =>
    (.error (.fault (.raised "AttributeError" s!"'{name}' object has no attribute 'invoke'")), s)
  | object _ (.value d) _ =>
    (.error (.fault (.raised "TypeError" s!"'{d.kind}' object is not callable")), s)

def missing (name : String) : Failure :=
  .fault (.raised "ImportError" ("No module named " ++ Text.quote name))

def parent? (name : String) : Option String :=
  let parts := name.splitOn "."
  if parts.length < 2 then none else some (".".intercalate parts.dropLast)

/-- Imports a module. Of a dotted name that is not known, the outermost part that is not known is
missing; a known module has no parts. -/
def import? (modules : Modules σ) : Nat → String → Except Failure (List (String × Member σ))
  | 0, name => .error (missing name)
  | fuel + 1, name =>
    match modules.lookup name, parent? name with
    | some (.members list), _ => .ok list
    | some (.broken f), _ => .error f
    | none, none => .error (missing name)
    | none, some parent =>
      match import? modules fuel parent with
      | .error f => .error f
      | .ok _ =>
        .error (.fault (.raised "ImportError" (s!"No module named {Text.quote name}; " ++
          s!"{Text.quote parent} is not a package")))

/-- Imports a module by a name that must not be relative. A failure of importing is worded for the
interpreter; all others stay what they are. -/
def importModule (modules : Modules σ) (name : String) :
    Except Failure (List (String × Member σ)) :=
  if name.startsWith "." then
    .error (.fault (.raised "TypeError"
      ("the 'package' argument is required to perform a relative import for " ++ Text.quote name)))
  else
    match import? modules (name.length + 1) name with
    | .error (.fault (.raised "ImportError" text)) => .error (.broken (.noModule name text))
    | result => result

def Body.isInterpreter : Body σ → Bool
  | .calls _ => true
  | .plain => false
  | .value d => match d with
    | .null => false
    | _ => true

def ofBody (path name : String) (body : Body σ) (isMember : Bool) :
    Except Failure (Loaded σ) :=
  if body.isInterpreter then .ok (.object name body isMember)
  else .error (.broken (.notInterpreter path name))

def ofMember (path name : String) : Member σ → Except Failure (Loaded σ)
  | .value d => .error (.broken (.notInterpreter path d.kind))
  | .object body => ofBody path name body true
  | .maker body => ofBody path name body false
  | .broken f => .error f

/-- The kinds of what a module has besides the members that it lists: what it is called, what it
holds, and what its own questions are answered with. -/
def ownKinds : List (String × String) :=
  [("__annotations__", "dict"), ("__dict__", "dict"), ("__dir__", "list"), ("__getstate__", "dict"),
    ("__hash__", "int"), ("__init_subclass__", "NoneType"), ("__name__", "str"),
    ("__repr__", "str"), ("__sizeof__", "int"), ("__str__", "str"),
    ("__subclasshook__", "NotImplementedType")]

def ownComplaints : List (String × String) :=
  let nameless := "module() missing required argument 'name' (pos 1)"
  let alone := "expected 1 argument, got 0"
  [("__class__", nameless), ("__init__", nameless), ("__delattr__", alone), ("__eq__", alone),
    ("__ge__", alone), ("__getattribute__", alone), ("__gt__", alone), ("__le__", alone),
    ("__lt__", alone), ("__ne__", alone), ("__setattr__", " expected 2 arguments, got 0"),
    ("__format__", "__format__() takes exactly one argument (0 given)"),
    ("__new__", "module.__new__(): not enough arguments"),
    ("__reduce__", "cannot pickle 'module' object"),
    ("__reduce_ex__", "__reduce_ex__() takes exactly one argument (0 given)")]

def ownFailure (path name member : String) : Failure :=
  match ownKinds.lookup member, ownComplaints.lookup member with
  | some kind, _ => .broken (.notInterpreter path kind)
  | none, some complaint => .fault (.raised "TypeError" complaint)
  | none, none => .broken (.noMember name member)

def splitPath? (path : String) : Option (String × String) :=
  let cs := path.toList
  let name := cs.takeWhile (· != ':')
  let member := (cs.dropWhile (· != ':')).drop 1
  if name.isEmpty || member.isEmpty then none else some (String.ofList name, String.ofList member)

def load (modules : Modules σ) (path : Option String) : Except Failure (Loaded σ) :=
  match path.filter (· ≠ "") with
  | none => .ok .unavailable
  | some path =>
    match splitPath? path with
    | none => .error (.broken (.badInterpreterPath path))
    | some (name, member) => do
      let members ← importModule modules name
      match members.lookup member with
      | none => .error (ownFailure path name member)
      | some (.value .null) => .error (.broken (.noMember name member))
      | some m => ofMember path member m

end Rehearsal.Interpreter
