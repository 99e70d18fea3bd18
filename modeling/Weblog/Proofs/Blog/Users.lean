import Weblog.Blog.Accounts
import Weblog.Proofs.Store.Entity

/-!
# Weblog.Proofs.Blog.Users

How users are looked for and saved.

* `User.schema`: the checked model of users.
* `ofJson?_toFields`: a user is read back from its fields.
* `User.stamped`, `User.insertion`: a user with its time of creation, and the statement that inserts
  it.
* `Blog.emailSearch`: the statement that looks for the users with an e-mail address.
-/

namespace Weblog
namespace User

def schema : Schema where
  name := "User"
  table := "users"
  key := "id"
  attrs := ["email", "passwd", "admin", "name", "image", "created_at"]
  declared := declaration.fields

theorem build_eq : (Entity.schema User) = .ok schema := rfl

theorem toFields_eq (u : User) :
    u.toFields = ("admin", .bool u.admin) ::
      ((u.createdAt.map fun x => ("created_at", Json.ofFloat x)).toList ++
        ("email", .string u.email) :: ((u.id.map fun s => ("id", Json.string s)).toList ++
          [("image", .string u.image), ("name", .string u.name), ("passwd", .string u.passwd)])) := by
  obtain ⟨id, email, passwd, admin, name, image, createdAt⟩ := u
  cases id <;> cases createdAt <;>
    simp only [toFields, Blog.entityFields, Fields.ofList, Fields.set, Option.map_some,
      Option.map_none, Option.toList_some, Option.toList_none, List.cons_append, List.nil_append,
      List.append_nil, List.foldl_cons, List.foldl_nil, String.reduceEq, String.reduceLT, if_true,
      if_false]

theorem ofJson?_toFields (u : User) : ofJson? (.object u.toFields) = some u := by
  obtain ⟨id, email, passwd, admin, name, image, createdAt⟩ := u
  rw [toFields_eq]
  cases id <;> cases createdAt <;> rfl

theorem ofFields_toFields (u : User) : Entity.ofFields u.toFields = .ok u := by
  have hdecode : Entity.decode (.object u.toFields) = some u := ofJson?_toFields u
  rw [Entity.ofFields, hdecode]

def row (u : User) : List Json :=
  schema.writeOrder.map fun attr => (Fields.get? attr u.toFields).getD .null

theorem row_eq (u : User) : u.row = [.string u.email, .string u.passwd, .bool u.admin,
    .string u.name, .string u.image, (u.createdAt.map Json.ofFloat).getD .null,
    (u.id.map Json.string).getD .null] := by
  obtain ⟨id, email, passwd, admin, name, image, createdAt⟩ := u
  rw [row, toFields_eq]
  cases id <;> cases createdAt <;> rfl

/-- What an insert binds tells users apart. -/
theorem bound_injective {u v : User} (h : u.row.map Bound.ofJson = v.row.map Bound.ofJson) :
    u = v := by
  obtain ⟨id, email, passwd, admin, name, image, createdAt⟩ := u
  obtain ⟨id', email', passwd', admin', name', image', createdAt'⟩ := v
  rw [row_eq, row_eq] at h
  injection h with hemail h
  injection h with hpasswd h
  injection h with hadmin h
  injection h with hname h
  injection h with himage h
  injection h with hcreated h
  injection h with hid h
  cases hemail
  cases hpasswd
  cases hadmin
  cases hname
  cases himage
  cases createdAt <;> cases createdAt' <;> cases hcreated <;>
    cases id <;> cases id' <;> cases hid <;> rfl

def insertion (u : User) : Statement := Database.statement schema.insertSql u.row

/-- A user with the time of its creation, in milliseconds. -/
def stamped (u : User) (millis : Int) : User :=
  { u with createdAt := some (Stamp.secondsOf millis) }

/-- A user that has an id, but no time of creation yet, gets it from the clock. -/
theorem insertArgs_eq {u : User} {uid : String} (hid : u.id = some uid)
    (hcreated : u.createdAt = none) :
    (Entity.toRecord schema u).insertArgs = .ask .clock fun millis =>
      .done (.ok (u.stamped millis).row, Entity.toRecord schema (u.stamped millis)) := by
  obtain ⟨id, email, passwd, admin, name, image, createdAt⟩ := u
  cases hid
  cases hcreated
  simp only [Entity.toRecord, row, stamped, Entity.encode, toFields_eq]
  rfl

/-- A save of a user that has an id reads the clock and inserts the user with its time of
creation. -/
theorem runs_save_ok {u v : User} {uid : String} (hid : u.id = some uid)
    (hcreated : u.createdAt = none) {autocommit : Bool} {es : List Exchange}
    (h : Action.Runs (Entity.save autocommit u).run es (.ok v)) :
    ∃ millis rest, es = ⟨.clock, millis⟩ :: rest ∧ v = u.stamped millis ∧
      sentBy rest = if autocommit then [v.insertion]
        else [⟨TransactionControl.start.sql, []⟩, v.insertion,
          ⟨TransactionControl.commit.sql, []⟩] := by
  obtain ⟨fs, gs, args, record, rfl, hargs, hsent, hv⟩ := Entity.runs_save_ok build_eq h
  rw [insertArgs_eq hid hcreated] at hargs
  obtain ⟨millis, rest, rfl, hdone⟩ := Action.runs_ask_iff.1 hargs
  obtain ⟨rfl, hout⟩ := Action.runs_done_iff.1 hdone
  cases hout
  have hstamped : Entity.ofFields (Entity.toRecord schema (u.stamped millis)).values =
      .ok (u.stamped millis) := ofFields_toFields _
  cases hstamped.symm.trans hv
  exact ⟨millis, gs, rfl, rfl, hsent⟩

/-- With autocommit, a user that has an id is saved if its insert affects one row. -/
theorem runs_save {u : User} {uid : String} (hid : u.id = some uid) (hcreated : u.createdAt = none)
    (millis : Int) {rs : ResultSet} (hrs : rs.affected = 1) :
    Action.Runs (Entity.save true u).run [⟨.clock, millis⟩, ⟨.connect, .ok ()⟩,
      ⟨.run (u.stamped millis).insertion, .ok rs⟩] (.ok (u.stamped millis)) := by
  have hargs : Action.Runs (Entity.toRecord schema u).insertArgs [⟨.clock, millis⟩]
      (.ok (u.stamped millis).row, Entity.toRecord schema (u.stamped millis)) := by
    rw [insertArgs_eq hid hcreated]
    exact .ask .done
  have hwrite := Database.runs_execute_autocommit schema.insertSql (u.stamped millis).row rs
  rw [hrs] at hwrite
  exact Entity.runs_save build_eq hargs hwrite (ofFields_toFields _)

def selected (u : User) : ResultSet where
  columns := [⟨"id", .varchar⟩, ⟨"email", .varchar⟩, ⟨"passwd", .varchar⟩, ⟨"admin", .bool⟩,
    ⟨"name", .varchar⟩, ⟨"image", .varchar⟩, ⟨"created_at", .float8⟩]
  rows := [[.text (u.id.getD ""), .text u.email, .text u.passwd, .bool u.admin, .text u.name,
    .text u.image, .float u.createdAt]]
  affected := 1

theorem ofResult_selected {u : User} {uid : String} (hid : u.id = some uid) :
    Entity.ofResult u.selected = .ok [u] := by
  obtain ⟨id, email, passwd, admin, name, image, createdAt⟩ := u
  cases hid
  cases createdAt <;> rfl

end User

namespace Blog

/-- The statement that looks for the users with an e-mail address. -/
def emailSearch (email : String) : Statement :=
  Database.statement (User.schema.selectSql ++ " WHERE email = ?") [.string email]

/-- What a search for an e-mail address asks and how it ends. -/
theorem runs_usersOfEmail_iff {email : String} {es : List Exchange}
    {out : Except AppError (List User)} :
    Action.Runs (usersOfEmail email).run es out ↔
      (∃ e : DbError, es = [⟨.connect, .error e⟩] ∧ out = .error (.store (.database e))) ∨
      (∃ e : DbError, es = [⟨.connect, .ok ()⟩, ⟨.run (emailSearch email), .error e⟩] ∧
        out = .error (.store (.database e))) ∨
      ∃ rs : ResultSet, es = [⟨.connect, .ok ()⟩, ⟨.run (emailSearch email), .ok rs⟩] ∧
        out = (Entity.ofResult rs).mapError .store := by
  let q : FindAll := { filter := some ⟨"email = ?", [.string email]⟩ }
  have hsearch : Database.statement (q.query User.schema).sql (q.query User.schema).params =
      emailSearch email := by
    simp [q, FindAll.query, clause, emailSearch]
  rw [usersOfEmail, stored, Fallible.runs_mapError_iff]
  constructor
  · rintro ⟨r, hfind, rfl⟩
    have hfind := (Entity.runs_findAll_iff (q := q) User.build_eq).1 hfind
    rw [hsearch] at hfind
    rcases hfind with ⟨e, rfl, rfl⟩ | ⟨e, rfl, rfl⟩ | ⟨rs, rfl, rfl⟩
    · exact .inl ⟨e, rfl, rfl⟩
    · exact .inr (.inl ⟨e, rfl, rfl⟩)
    · exact .inr (.inr ⟨rs, rfl, rfl⟩)
  · rw [← hsearch]
    rintro (⟨e, hes, rfl⟩ | ⟨e, hes, rfl⟩ | ⟨rs, hes, rfl⟩)
    · exact ⟨_, (Entity.runs_findAll_iff User.build_eq).2 (.inl ⟨e, hes, rfl⟩), rfl⟩
    · exact ⟨_, (Entity.runs_findAll_iff User.build_eq).2 (.inr (.inl ⟨e, hes, rfl⟩)), rfl⟩
    · exact ⟨_, (Entity.runs_findAll_iff User.build_eq).2 (.inr (.inr ⟨rs, hes, rfl⟩)), rfl⟩

theorem runs_usersOfEmail {email : String} {rs : ResultSet} {found : List User}
    (h : Entity.ofResult rs = .ok found) :
    Action.Runs (usersOfEmail email).run
      [⟨.connect, .ok ()⟩, ⟨.run (emailSearch email), .ok rs⟩] (.ok found) :=
  runs_usersOfEmail_iff.2 (.inr (.inr ⟨rs, rfl, by rw [h]; rfl⟩))

theorem emailSearch_sql_ne (email : String) :
    (emailSearch email).sql ≠ Sql.native User.schema.insertSql := by
  intro h
  have hhead := congrArg (fun sql : String => sql.toList.head?) h
  simp only [emailSearch, Database.statement, Schema.head?_selectSql, Schema.head?_insertSql] at hhead
  exact absurd hhead (by decide)

/-- Of what a registration sends, only the insert is one. -/
theorem eq_insertion_of_mem {autocommit : Bool} {u : User} {st : Statement}
    (hmem : st ∈ if autocommit then [u.insertion]
      else [⟨TransactionControl.start.sql, []⟩, u.insertion, ⟨TransactionControl.commit.sql, []⟩])
    (hsql : st.sql = Sql.native User.schema.insertSql) : st = u.insertion := by
  have hcontrol : ∀ t : TransactionControl, t.sql ≠ Sql.native User.schema.insertSql := by
    intro t h
    have hhead := congrArg (fun sql : String => sql.toList.head?) h
    simp only [Schema.head?_insertSql] at hhead
    cases t <;> exact absurd hhead (by decide)
  cases autocommit with
  | true => exact List.mem_singleton.1 hmem
  | false =>
    simp only [Bool.false_eq_true, if_false, List.mem_cons, List.not_mem_nil, or_false] at hmem
    rcases hmem with rfl | hmem | rfl
    · exact absurd hsql (hcontrol .start)
    · exact hmem
    · exact absurd hsql (hcontrol .commit)

end Blog
end Weblog
