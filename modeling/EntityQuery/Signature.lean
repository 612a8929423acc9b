import EntityQuery.Failure

/-!
# Calls with positional and named arguments

The operations of the library can be called with loose arguments: some by position, some by
name. A `Signature` says which parameters an operation has, and `Signature.bind` assigns the
arguments to them or says what is wrong with the call.

* Named arguments are looked at first, one after another: a name has to be that of a parameter
  that is not given by position. Then come too many positional arguments, then missing ones.
* The receiver of a method counts as an argument in the wording, but is never passed here. It
  has a name, which is always taken.
-/

namespace EntityQuery

/-- The parameters of an operation. -/
structure Signature where
  /-- The name of the operation in failures. -/
  callee : String
  /-- Is there a receiver, which counts as a first argument? -/
  isMethod : Bool
  /-- The parameters that have to be given. -/
  required : List String
  /-- The parameters that may be left out, which come last. -/
  optional : List String

namespace Signature

/-- All parameters in order. -/
def parameters (s : Signature) : List String := s.required ++ s.optional

/-- The name of the receiver of a method. -/
def receiverName : String := "self"

/-- The first argument by name that the call cannot have. -/
def misnamed? (s : Signature) (positional : Nat) : List (String × Value) → Option Failure
  | [] => none
  | (name, _) :: rest =>
      if s.isMethod && name == receiverName then some (.repeatedArgument s.callee name)
      else match s.parameters.idxOf? name with
      | none => some (.unexpectedArgument s.callee name)
      | some i =>
          if i < positional then some (.repeatedArgument s.callee name)
          else s.misnamed? positional rest

/-- The number of arguments that is counted for a receiver. -/
def receiver (s : Signature) : Nat := if s.isMethod then 1 else 0

/-- What is wrong with a call by position alone whose number of arguments does not fit. -/
def misfit (s : Signature) (given : Nat) : Failure :=
  if s.parameters.length < given then
    .tooManyArguments s.callee (s.required.length + s.receiver)
      (s.parameters.length + s.receiver) (given + s.receiver)
  else .missingArguments s.callee (s.required.drop given)

/-- The argument for the parameter at a position, if it is given. -/
def argument? (positional : List Value) (named : List (String × Value)) (name : String)
    (position : Nat) : Option Value :=
  positional[position]?.or ((named.find? (·.1 == name)).map Prod.snd)

/-- The required parameters that a call does not give. -/
def missing (s : Signature) (positional : List Value) (named : List (String × Value)) :
    List String :=
  (s.required.zipIdx.filter fun (name, i) => (argument? positional named name i).isNone).map
    Prod.fst

/-- The arguments of a call, one for each parameter, with nothing where one is left out. -/
def bind (s : Signature) (positional : List Value) (named : List (String × Value)) :
    Except Failure (List Value) :=
  match s.misnamed? positional.length named with
  | some e => .error e
  | none =>
      if s.parameters.length < positional.length then .error (s.misfit positional.length)
      else
        match s.missing positional named with
        | [] => .ok (s.parameters.zipIdx.map fun (name, i) =>
            (argument? positional named name i).getD .none)
        | names => .error (.missingArguments s.callee names)

end Signature

end EntityQuery
