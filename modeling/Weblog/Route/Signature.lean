import Weblog.Error

/-!
# Weblog.Route.Signature

What handlers declare about their parameters.

* `ParamKind`, `Param`, `Signature`: the declared parameters in order.
* `ArgSpec`: what the dispatcher needs to know of them.
* `Signature.inspect`: the check that after the request only variadic and keyword parameters
  follow, and the classification, in one pass.
* `Signature.misplaced?`, `Signature.spec`: the two taken apart.
-/

namespace Weblog

/-- The kind of a parameter. -/
inductive ParamKind where
  /-- The request itself. -/
  | request
  | positional
  | varPositional
  /-- A parameter that is given by its name. -/
  | keyword (required : Bool)
  /-- All further names. -/
  | varKeyword
  deriving DecidableEq, Repr

/-- A declared parameter. -/
structure Param where
  name : String
  kind : ParamKind
  deriving DecidableEq, Repr

/-- The declared parameters of a handler in order. -/
abbrev Signature : Type := List Param

/-- What the dispatcher needs to know of the parameters. -/
structure ArgSpec where
  /-- The handler sees the request. -/
  takesRequest : Bool
  /-- The handler takes every name. -/
  takesAll : Bool
  /-- The names of the keyword parameters in order. -/
  named : List String
  /-- The names that must be given. -/
  required : List String
  deriving DecidableEq, Repr

/-- The query or the body is read only for keyword parameters. -/
def ArgSpec.readsInput (spec : ArgSpec) : Bool := spec.takesAll || !spec.named.isEmpty

/-- What is known before the first parameter. -/
def ArgSpec.empty : ArgSpec := ⟨false, false, [], []⟩

/-- What is known after one more parameter. -/
def ArgSpec.take (spec : ArgSpec) (p : Param) : ArgSpec :=
  match p.kind with
  | .request => { spec with takesRequest := true }
  | .keyword required =>
    { spec with
      named := spec.named ++ [p.name]
      required := if required then spec.required ++ [p.name] else spec.required }
  | .varKeyword => { spec with takesAll := true }
  | .positional | .varPositional => spec

def ParamKind.precedesRequest : ParamKind → Bool
  | .request | .positional => true
  | _ => false

def Param.keyword? (p : Param) : Option String :=
  match p.kind with
  | .keyword _ => some p.name
  | _ => none

/-- The name of a keyword parameter that must be given. -/
def Param.required? (p : Param) : Option String :=
  match p.kind with
  | .keyword true => some p.name
  | _ => none

namespace Signature

/-- The first parameter that may not stand after the request, and does; `seen` tells whether the
request was passed. -/
def misplaced? (seen : Bool) : List Param → Option Param
  | [] => none
  | p :: rest =>
    if seen && p.kind.precedesRequest then some p
    else misplaced? (seen || p.kind == .request) rest

/-- The classification of the parameters. -/
def spec (s : Signature) : ArgSpec where
  takesRequest := s.any fun p => p.kind == .request
  takesAll := s.any fun p => p.kind == .varKeyword
  named := s.filterMap Param.keyword?
  required := s.filterMap Param.required?

/-- Checks the parameters that follow those that are known and classifies them, up to the first that
may not stand there. -/
def inspectFrom (path : String) (known : ArgSpec) : List Param → Except RouteError ArgSpec
  | [] => .ok known
  | p :: rest =>
    if known.takesRequest && p.kind.precedesRequest then
      .error (.requestParamNotLast path p.name)
    else inspectFrom path (known.take p) rest

/-- Checks the order of the parameters and classifies them; the path is for the error. -/
def inspect (s : Signature) (path : String) : Except RouteError ArgSpec :=
  inspectFrom path .empty s

end Signature
end Weblog
