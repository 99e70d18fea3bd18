import Weblog.Calendar
import Weblog.Json.Basic
import Weblog.Number.Shortest
import Weblog.Text.Quoted

/-!
# Weblog.Template.Basic

Page templates and what they show of a context.

* `Expr`, `Node`: templates: texts, values, conditions, loops, and places that another template may
  fill.
* `Expr.eval`: the value of an expression; none is an undefined value. An attribute of an undefined
  value is an error, and so is the age of anything but a number.
* `shown`: what a page shows of a value. Within an array or an object texts are quoted, and very
  large and very small numbers have an exponent.
* `escape`: the characters with a meaning in HTML as entities.
* `Node.render`: the text of a template. Every value is escaped unless it is a number, a truth
  value or null.
-/

namespace Weblog
namespace Template

/-- An expression. -/
inductive Expr where
  | var (name : String)
  | attr (e : Expr) (name : String)
  /-- How long ago an instant in seconds was. -/
  | age (e : Expr)
  /-- The sum with an integer. -/
  | plus (e : Expr) (n : Int)
  deriving DecidableEq, Repr

/-- A node of a template. -/
inductive Node where
  | text (s : String)
  | value (e : Expr)
  | cond (e : Expr) (yes no : List Node)
  /-- The body for each item under a name, or the other nodes where there is no item. -/
  | each (name : String) (e : Expr) (body otherwise : List Node)
  /-- A place with a name, and what stands there unless it is filled. -/
  | place (name : String) (initial : List Node)
  deriving Repr

/-- What expressions see: values under names, and the clock in seconds since the epoch. -/
structure Scope where
  lookup : String → Option Json
  now : Int

def Scope.bind (s : Scope) (name : String) (v : Json) : Scope :=
  { s with lookup := fun n => if n = name then some v else s.lookup n }

/-- The scope of a context; the values of an object stand under their keys. -/
def Scope.ofContext (context : Json) (now : Int) : Scope :=
  ⟨fun name => context.field? name, now⟩

/-- The sum of a value and an integer; a truth value counts as zero or one. -/
def addInt (v : Option Json) (n : Int) : Option Json :=
  match v with
  | some (.number (.integer i)) => some (.ofInt (i + n))
  | some (.bool b) => some (.ofInt ((if b then 1 else 0) + n))
  | some (.number (.float x)) => (x.add? (Binary64.ofInt n)).map Json.ofFloat
  | _ => none

/-- The value of an expression, undefined where it is none; no outer value is an error. -/
def Expr.eval (s : Scope) : Expr → Option (Option Json)
  | .var name => some (s.lookup name)
  | .attr e name =>
    match e.eval s with
    | some (some v) => some (v.field? name)
    | _ => none
  | .age e =>
    match e.eval s with
    | some (some (.number n)) => some (some (.string (Calendar.age n.toFloat s.now)))
    | _ => none
  | .plus e n => (e.eval s).bind fun v => (addInt v n).map some

/-- A value that counts as true. -/
def truth : Option Json → Bool
  | none | some .null => false
  | some (.bool b) => b
  | some (.number (.integer i)) => i != 0
  | some (.number (.float x)) => !x.isZero
  | some (.string s) => !s.isEmpty
  | some (.array items) => !items.isEmpty
  | some (.object fields) => !fields.isEmpty

/-- The items that a loop goes through: those of an array, the keys of an object or the characters
of a text. -/
def items? : Option Json → Option (List Json)
  | none | some .null => some []
  | some (.array items) => some items
  | some (.object fields) => some (fields.map fun f => .string f.1)
  | some (.string s) => some (s.toList.map fun c => .string (String.singleton c))
  | some (.bool _) | some (.number _) => none

def escapeChar (c : Char) : List Char :=
  if c = '<' then "&lt;".toList
  else if c = '>' then "&gt;".toList
  else if c = '&' then "&amp;".toList
  else if c = '"' then "&quot;".toList
  else if c = Char.ofNat 39 then "&#x27;".toList
  else if c = '/' then "&#x2f;".toList
  else [c]

/-- A text in HTML. -/
def escape (s : String) : String := String.ofList (s.toList.flatMap escapeChar)

def numberText : Number → String
  | .integer i => Text.ofInt i
  | .float x => x.format Binary64.positionalLayout

def innerNumberText : Number → String
  | .integer i => Text.ofInt i
  | .float x => x.format Binary64.plainLayout

def boolText (b : Bool) : String := if b then "True" else "False"

mutual

/-- A value within an array or an object. -/
def inner : Json → String
  | .null => "None"
  | .bool b => boolText b
  | .number n => innerNumberText n
  | .string s => Text.quoted s
  | .array items => "[" ++ innerItems items ++ "]"
  | .object fields => "\x7b" ++ innerFields fields ++ "\x7d"

/-- Values with commas between them. -/
def innerItems : List Json → String
  | [] => ""
  | [v] => inner v
  | v :: w :: rest => inner v ++ ", " ++ innerItems (w :: rest)

/-- Fields with commas between them. -/
def innerFields : List (String × Json) → String
  | [] => ""
  | [(k, v)] => Text.quoted k ++ ": " ++ inner v
  | (k, v) :: f :: rest => Text.quoted k ++ ": " ++ inner v ++ ", " ++ innerFields (f :: rest)

end

/-- What a page shows of a value; an undefined value is empty. -/
def shown : Option Json → String
  | none => ""
  | some .null => "None"
  | some (.bool b) => boolText b
  | some (.number n) => numberText n
  | some (.string s) => escape s
  | some v => escape (inner v)

/-- What stands in the places of a template. -/
abbrev Fillings : Type := String → Option (Scope → Option String)

mutual

/-- The text of a node, unless an expression in it is an error. -/
def Node.render (fill : Fillings) (s : Scope) : Node → Option String
  | .text t => some t
  | .value e => (e.eval s).map shown
  | .cond e yes no =>
    match e.eval s with
    | none => none
    | some v => if truth v then renderAll fill s yes else renderAll fill s no
  | .each name e body otherwise =>
    match (e.eval s).bind items? with
    | none => none
    | some [] => renderAll fill s otherwise
    | some items =>
      (items.mapM fun v => renderAll fill (s.bind name v) body).map fun texts => "".intercalate texts
  | .place name initial =>
    match fill name with
    | some content => content s
    | none => renderAll fill s initial

/-- The text of nodes one after another. -/
def renderAll (fill : Fillings) (s : Scope) : List Node → Option String
  | [] => some ""
  | n :: rest =>
    match n.render fill s with
    | none => none
    | some t => (renderAll fill s rest).map (t ++ ·)

end

end Template
end Weblog
