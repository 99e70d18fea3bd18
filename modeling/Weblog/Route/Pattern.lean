import Weblog.Error
import Weblog.Text.Split

/-!
# Weblog.Route.Pattern

Path patterns, and the paths under which the router keeps them.

* `Pattern.isName`: the names that may stand in braces.
* `Pattern.replaceGroups`: goes from one opening brace to the next and puts a colon and the name in
  the place of each group.
* `Pattern.convert`: the path of a pattern, or the refusal of the whole pattern.
-/

namespace Weblog
namespace Pattern

def beginsName (c : Char) : Bool := c.isAlpha || c == '_'

def inName (c : Char) : Bool := c.isAlphanum || c == '_'

/-- It begins with an ASCII letter or an underscore, and all of it is letters, digits and
underscores. -/
def isName (n : List Char) : Bool := n.head?.any beginsName && n.all inName

/-- The path of what is left of a pattern, behind the path so far: a colon and the name for each
group in braces. There is none where a brace belongs to no pair around a name. -/
def replaceGroups (path left : List Char) : Option (List Char) :=
  match _h : Text.splitOnce '\x7b' left with
  | none => if '\x7d' ∈ left then none else some (path ++ left)
  | some (literal, tail) =>
    if '\x7d' ∈ literal then none
    else
      match _h' : Text.splitOnce '\x7d' tail with
      | none => none
      | some (name, left) =>
        if isName name then replaceGroups (path ++ literal ++ ':' :: name) left else none
termination_by left.length
decreasing_by
  have := Text.length_lt_of_splitOnce _h
  have := Text.length_lt_of_splitOnce _h'
  omega

/-- The path of a pattern, with each name behind a colon. -/
def convert (pattern : String) : Except RouteError String :=
  if pattern.toList.head? = some '/' then
    match replaceGroups [] pattern.toList with
    | some path => .ok (String.ofList path)
    | none => .error (.invalidPattern pattern)
  else .error (.invalidPattern pattern)

end Pattern
end Weblog
