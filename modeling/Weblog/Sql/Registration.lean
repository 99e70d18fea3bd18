import Weblog.Sql.Schema

/-!
# Weblog.Sql.Registration

Places that keep the schema of one model. The first declaration is checked and its outcome kept;
later declarations change nothing.
-/

namespace Weblog

/-- The place of one schema: empty, or the outcome of the first registration. -/
abbrev SchemaSlot : Type := Option (Except SchemaError Schema)

/-- Registers a declaration: the outcome kept in the place, and the place afterwards. The first
failure is noted in the log. -/
def SchemaSlot.register (slot : SchemaSlot) (d : Declaration) :
    Action (Except SchemaError Schema × SchemaSlot) :=
  match slot with
  | some kept => .done (kept, slot)
  | none =>
    match d.build with
    | .ok s => .done (.ok s, some (.ok s))
    | .error e => do
      Action.log .registrationFailed
      return (.error e, some (.error e))

theorem SchemaSlot.register_some (kept : Except SchemaError Schema) (d : Declaration) :
    SchemaSlot.register (some kept) d = .done (kept, some kept) := rfl

end Weblog
