import Weblog.Action

/-!
# Weblog.Fallible

Actions that may end in an error.

* `Fallible`: an action that ends in a value or in an error.
* `lift`, `ofExcept`: actions that cannot fail, and outcomes that are known.
* `mapError`: the same action with its errors in the words of another layer.
-/

namespace Weblog

/-- An action that ends in a value or in an error. -/
abbrev Fallible (ε α : Type) : Type := ExceptT ε Action α

namespace Fallible

def lift {ε α : Type} (x : Action α) : Fallible ε α := ExceptT.mk (Except.ok <$> x)

/-- A value or an error that is known. -/
def ofExcept {ε α : Type} (x : Except ε α) : Fallible ε α := ExceptT.mk (.done x)

/-- The action with its errors put into words of another layer. -/
def mapError {ε δ α : Type} (f : ε → δ) (x : Fallible ε α) : Fallible δ α :=
  ExceptT.mk (Except.mapError f <$> x.run)

@[simp] theorem run_ofExcept {ε α : Type} (x : Except ε α) :
    (ofExcept x : Fallible ε α).run = .done x := rfl

@[simp] theorem run_lift {ε α : Type} (x : Action α) :
    (lift x : Fallible ε α).run = Except.ok <$> x := rfl

@[simp] theorem run_mapError {ε δ α : Type} (f : ε → δ) (x : Fallible ε α) :
    (mapError f x).run = Except.mapError f <$> x.run := rfl

end Fallible
end Weblog
