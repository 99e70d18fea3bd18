import Weblog.Proofs.Blog.Access
import Weblog.Proofs.Json.Fields
import Weblog.Proofs.Store.Alignment
import Weblog.Proofs.Store.Transaction

/-!
# Weblog.Proofs.Blog.Drafts

What becomes of an entity of the blog when it is saved.

* `Draft`: an entity by its parts: an id and a time of creation that may be absent, and attributes
  that are always there.
* `complete`: the entity with the id and the time of creation that it has, or else with new ones.
* `insertArgs_eq`: the arguments of an insert are the columns of the entity as it is completed, and
  the record then holds that entity.
* `WritesBack`: an insert stores the entity as it is completed, and a save yields what was stored.
-/

namespace Weblog

/-- An entity of the blog by its parts, as its model and its encoding have them. -/
class Draft (α : Type) [Entity α] where
  declaration : Declaration
  model : Schema
  id : α → Option String
  createdAt : α → Option Binary64
  /-- The other attributes in the order of their declaration. -/
  others : α → List (String × Json)
  /-- The entity with an id and a time of creation. -/
  stamped : α → String → Binary64 → α
  schema_eq : Entity.schema α = declaration.build
  build_eq : declaration.build = .ok model
  /-- No column has another name than its attribute. -/
  unnamed : (declaration.fields.all fun f => f.column.isNone) = true
  key_eq : model.key = "id"
  attrs_eq : ∀ v, model.attrs = (others v).map Prod.fst ++ ["created_at"]
  field?_id : model.field? "id" = some Blog.idField
  field?_createdAt : model.field? "created_at" = some Blog.createdAtField
  ne_null : ∀ v, ∀ p ∈ others v, p.2 ≠ .null
  encode_eq : ∀ v, Entity.encode v = Blog.entityFields (id v) (createdAt v) (others v)
  decode_encode : ∀ v : α, Entity.decode (.object (Entity.encode v)) = some v
  id_stamped : ∀ v i t, id (stamped v i t) = some i
  createdAt_stamped : ∀ v i t, createdAt (stamped v i t) = some t
  others_stamped : ∀ v i t, others (stamped v i t) = others v

namespace Blog

variable {id : Option String} {createdAt : Option Binary64} {others : List (String × Json)}

theorem get?_toList {β : Type} (o : Option β) (g : β → Json) (attr key : String) :
    Fields.get? key (o.map fun b => (attr, g b)).toList = if key = attr then o.map g else none := by
  cases o with
  | none => simp
  | some b =>
    rw [Option.map_some, Option.toList_some, Fields.get?_cons]
    simp only [Option.map_some, Fields.get?_nil, eq_comm]

/-- What the fields of an entity hold. -/
theorem get?_entityFields (h : (others.map Prod.fst ++ ["created_at", "id"]).Nodup) (key : String) :
    Fields.get? key (entityFields id createdAt others) =
      if key = "id" then id.map Json.string
      else if key = "created_at" then createdAt.map Json.ofFloat
      else Fields.get? key others := by
  obtain ⟨hothers, -, hfresh⟩ := List.nodup_append.1 h
  have hid : "id" ∉ others.map Prod.fst := fun hmem => hfresh "id" hmem "id" (by simp) rfl
  have hcreated : "created_at" ∉ others.map Prod.fst :=
    fun hmem => hfresh "created_at" hmem "created_at" (by simp) rfl
  -- the id comes first here and last in an insert
  have hpairs : (((id.map fun s => ("id", Json.string s)).toList ++ others ++
      (createdAt.map fun x => ("created_at", Json.ofFloat x)).toList).map Prod.fst).Nodup := by
    have hsub : List.Sublist (((id.map fun s => ("id", Json.string s)).toList ++ others ++
        (createdAt.map fun x => ("created_at", Json.ofFloat x)).toList).map Prod.fst)
        ("id" :: (others.map Prod.fst ++ ["created_at"])) := by
      cases id <;> cases createdAt <;> simp
    have hperm : ("id" :: (others.map Prod.fst ++ ["created_at"])).Perm
        (others.map Prod.fst ++ ["created_at", "id"]) := by
      have hcomm : (["id"] ++ (others.map Prod.fst ++ ["created_at"])).Perm
          ((others.map Prod.fst ++ ["created_at"]) ++ ["id"]) := List.perm_append_comm
      simpa using hcomm
    exact (hperm.nodup_iff.2 h).sublist hsub
  rw [entityFields, Fields.get?_ofList hpairs, Fields.get?_append, Fields.get?_append, get?_toList,
    get?_toList]
  by_cases hk : key = "id"
  · subst hk
    simp [Fields.get?_eq_none hid]
  · by_cases hc : key = "created_at"
    · subst hc
      simp [Fields.get?_eq_none hcreated]
    · simp [hk, hc]

end Blog

namespace Draft

/-- A value that is there, or else one that is made. -/
def kept {β : Type} (o : Option β) (x : Action β) : Action β := o.elim x .done

variable {α : Type} [Entity α] [Draft α]

/-- The entity with the id and the time of creation that it has, or else with new ones. -/
def complete (v : α) : Action α := do
  let created ← kept (createdAt v) Stamp.timestamp
  let id ← kept (id v) Stamp.newId
  return stamped v id created

/-- The columns of an entity and their values, in the order of an insert. -/
def columns (v : α) : List (String × Json) :=
  others v ++ [("created_at", ((createdAt v).map Json.ofFloat).getD .null),
    ("id", ((id v).map Json.string).getD .null)]

def values (v : α) : List Json := (columns v).map Prod.snd

theorem writeOrder_eq (v : α) :
    (model α).writeOrder = (others v).map Prod.fst ++ ["created_at", "id"] := by
  rw [Schema.writeOrder, attrs_eq v, key_eq, List.append_assoc]
  rfl

theorem nodup_others (v : α) : ((others v).map Prod.fst ++ ["created_at", "id"]).Nodup := by
  obtain ⟨key, hb⟩ := Declaration.exists_built (build_eq (α := α))
  exact writeOrder_eq v ▸ hb.nodup_writeOrder

theorem get?_encode (v : α) (key : String) :
    Fields.get? key (Entity.encode v) =
      if key = "id" then (id v).map Json.string
      else if key = "created_at" then (createdAt v).map Json.ofFloat
      else Fields.get? key (others v) := by
  rw [encode_eq]
  exact Blog.get?_entityFields (nodup_others v) key

theorem sorted_encode (v : α) : Fields.Sorted (Entity.encode v) := by
  rw [encode_eq]
  exact Fields.sorted_ofList _

theorem ofFields_encode (v : α) : Entity.ofFields (Entity.encode v) = .ok v := by
  rw [Entity.ofFields, decode_encode]

/-- Reading an attribute that may be absent keeps its value or sets a new one. -/
theorem valueOrDefault_eq {r : Record} {attr : String} {f : Field} {β : Type} {o : Option β}
    {g : β → Json} {x : Action β} (hsorted : Fields.Sorted r.values)
    (hvalue : Fields.get? attr r.values = o.map g) (hnull : ∀ b, g b ≠ .null)
    (hf : r.schema.field? attr = some f) (hx : f.initial = some (.generated (g <$> x))) :
    r.valueOrDefault attr = (fun b => (.ok (g b), r.set attr (g b))) <$> kept o x := by
  cases o with
  | none =>
    have hv : r.value attr = .null := by
      rw [Record.value, hvalue]
      rfl
    rw [Record.valueOrDefault_of_default hv hf hx, Default.resolve, ← comp_map]
    rfl
  | some b =>
    have hv : r.value attr = g b := by
      rw [Record.value, hvalue]
      rfl
    have hset : r.set attr (g b) = r := by
      rw [Record.set, hsorted.set_eq_self hvalue]
    rw [Record.valueOrDefault_of_ne_null (hv ▸ hnull b), hv]
    exact congrArg (fun r' => Action.done (Except.ok (g b), r')) hset.symm

theorem map_value_others (v : α) :
    ((others v).map Prod.fst).map (Entity.toRecord (model α) v).value = (others v).map Prod.snd := by
  have hdistinct := nodup_others v
  obtain ⟨hothers, -, hfresh⟩ := List.nodup_append.1 hdistinct
  rw [List.map_map]
  refine List.map_congr_left fun p hp => ?_
  have hne : ∀ key ∈ ["created_at", "id"], p.1 ≠ key := fun key hkey =>
    hfresh p.1 (List.mem_map_of_mem hp) key hkey
  rw [Function.comp_apply, Record.value, Entity.toRecord, get?_encode, if_neg (hne _ (by simp)),
    if_neg (hne _ (by simp)), Fields.get?_of_mem hothers hp]
  rfl

/-- The record of an entity in which the time of creation and the id are set is that of the entity
with them. -/
theorem set_set_toRecord (v : α) (id : String) (created : Binary64) :
    ((Entity.toRecord (model α) v).set "created_at" (.ofFloat created)).set "id" (.string id) =
      Entity.toRecord (model α) (stamped v id created) := by
  have hfields : ((Fields.set "created_at" (.ofFloat created) (Entity.encode v)).set "id"
      (.string id)) = Entity.encode (stamped v id created) := by
    refine (((sorted_encode v).set _ _).set _ _).ext (sorted_encode _) fun key => ?_
    rw [Fields.get?_set, Fields.get?_set, get?_encode, get?_encode, id_stamped, createdAt_stamped,
      others_stamped]
    by_cases hid : key = "id"
    · simp [hid]
    · by_cases hcreated : key = "created_at" <;> simp [hid, hcreated]
  exact congrArg (Record.mk (model α)) hfields

theorem values_stamped (v : α) (id : String) (created : Binary64) :
    values (stamped v id created) = (others v).map Prod.snd ++ [.ofFloat created, .string id] := by
  rw [values, columns, others_stamped, createdAt_stamped, id_stamped, List.map_append]
  rfl

/-- The two attributes that may be absent are read last. -/
theorem resolve_stamps (v : α) :
    (Entity.toRecord (model α) v).resolve ["created_at", "id"] =
      kept (createdAt v) Stamp.timestamp >>= fun created =>
        kept (id v) Stamp.newId >>= fun id =>
          pure (.ok [.ofFloat created, .string id],
            Entity.toRecord (model α) (stamped v id created)) := by
  let r := Entity.toRecord (model α) v
  have hcreated : r.valueOrDefault "created_at" =
      (fun t => (.ok (.ofFloat t), r.set "created_at" (.ofFloat t))) <$>
        kept (createdAt v) Stamp.timestamp := by
    refine valueOrDefault_eq (sorted_encode v) ?_ (fun _ => by simp [Json.ofFloat])
      field?_createdAt rfl
    exact (get?_encode v "created_at").trans (by simp)
  have hid : ∀ t, (r.set "created_at" (.ofFloat t)).valueOrDefault "id" =
      (fun s => (.ok (.string s), (r.set "created_at" (.ofFloat t)).set "id" (.string s))) <$>
        kept (id v) Stamp.newId := by
    intro t
    refine valueOrDefault_eq ((sorted_encode v).set _ _) ?_ (fun _ => by simp) field?_id rfl
    exact (Fields.get?_set_of_ne (by decide) _ _).trans ((get?_encode v "id").trans (by simp))
  rw [Record.resolve, hcreated, bind_map_left]
  refine congrArg (kept (createdAt v) Stamp.timestamp >>= ·) (funext fun t => ?_)
  dsimp only
  rw [Record.resolve, hid, bind_map_left, bind_assoc]
  refine congrArg (kept (id v) Stamp.newId >>= ·) (funext fun s => ?_)
  rw [← set_set_toRecord v s t]
  rfl

/-- The arguments of an insert are the columns of the entity as it is completed, and the record then
holds that entity. -/
theorem insertArgs_eq (v : α) :
    (Entity.toRecord (model α) v).insertArgs =
      (fun w => (.ok (values w), Entity.toRecord (model α) w)) <$> complete v := by
  have hnull : ∀ a ∈ (others v).map Prod.fst, (Entity.toRecord (model α) v).value a ≠ .null := by
    intro a ha
    have hmem := List.mem_map_of_mem (f := (Entity.toRecord (model α) v).value) ha
    rw [map_value_others] at hmem
    obtain ⟨p, hp, hvalue⟩ := List.mem_map.1 hmem
    exact hvalue ▸ ne_null v p hp
  have horder : (Entity.toRecord (model α) v).schema.writeOrder =
      (others v).map Prod.fst ++ ["created_at", "id"] := writeOrder_eq v
  rw [Record.insertArgs, horder, Record.resolve_append hnull, resolve_stamps, map_value_others,
    complete, map_bind, map_bind]
  refine congrArg (kept (createdAt v) Stamp.timestamp >>= ·) (funext fun t => ?_)
  rw [map_bind, map_bind]
  refine congrArg (kept (id v) Stamp.newId >>= ·) (funext fun s => ?_)
  rw [map_pure, map_pure, values_stamped]
  rfl

theorem map_fst_columns (v : α) : (columns v).map Prod.fst = (model α).writeOrder := by
  rw [columns, List.map_append, writeOrder_eq v]
  rfl

/-- An insert puts the values of an entity under its columns. -/
theorem row?_values (v : α) : ∃ ins : Sql.Insertion,
    Sql.Insertion.read? (Sql.native (model α).insertSql) = some ins ∧
      ins.table = (model α).table ∧ ins.row? (values v) = some (columns v) := by
  obtain ⟨key, hb⟩ := Declaration.exists_built (build_eq (α := α))
  let written := (declaration α).writeFields key
  let value (attr : String) := (Fields.get? attr (columns v)).getD .null
  have hdistinct : ((columns v).map Prod.fst).Nodup := map_fst_columns v ▸ hb.nodup_writeOrder
  have hattrs : written.map Field.attr = (columns v).map Prod.fst :=
    hb.writeOrder_eq.symm.trans (map_fst_columns v).symm
  -- what an insert writes is given by fields, what an entity has by attributes
  have hname : ∀ f ∈ written, f.columnName = f.attr := by
    intro f hf
    have hnone := List.all_eq_true.1 unnamed f (hb.mem_fields hf)
    rw [Field.columnName, Option.isNone_iff_eq_none.1 hnone]
    rfl
  have hvalue : ∀ p ∈ columns v, (p.1, value p.1) = p := by
    intro p hp
    simp only [value, Fields.get?_of_mem hdistinct hp, Option.getD_some]
  have hrow : (written.map fun f => (f.columnName, value f.attr)) = columns v := by
    calc (written.map fun f => (f.columnName, value f.attr))
        = (written.map Field.attr).map fun a => (a, value a) := by
          rw [List.map_map]
          exact List.map_congr_left fun f hf => by rw [hname f hf]; rfl
      _ = (columns v).map fun p => (p.1, value p.1) := by rw [hattrs, List.map_map]; rfl
      _ = columns v := by rw [List.map_congr_left hvalue, List.map_id']
  have hargs : written.map (fun f => value f.attr) = values v := by
    rw [values, ← hrow, List.map_map]
    rfl
  refine ⟨_, hb.read?_insertSql, rfl, ?_⟩
  rw [← hargs, Sql.Insertion.row?_fields, hrow]

theorem keyValue_eq (v : α) :
    (Entity.toRecord (model α) v).keyValue = ((id v).map Json.string).getD .null := by
  have hkey : (Entity.toRecord (model α) v).schema.key = "id" := key_eq
  rw [Record.keyValue, hkey, Record.value, Entity.toRecord, get?_encode]
  rfl

/-- The arguments of an update are the values of an entity as it is. -/
theorem updateArgs_eq (v : α) : (Entity.toRecord (model α) v).updateArgs = values v := by
  have horder : (Entity.toRecord (model α) v).schema.writeOrder =
      (others v).map Prod.fst ++ ["created_at", "id"] := writeOrder_eq v
  have hcreated : (Entity.toRecord (model α) v).value "created_at" =
      ((createdAt v).map Json.ofFloat).getD .null := by
    rw [Record.value, Entity.toRecord, get?_encode]
    rfl
  have hid : (Entity.toRecord (model α) v).value "id" = ((id v).map Json.string).getD .null := by
    rw [Record.value, Entity.toRecord, get?_encode]
    rfl
  rw [Record.updateArgs, horder, List.map_append, map_value_others, List.map_cons, List.map_cons,
    List.map_nil, hcreated, hid, values, columns, List.map_append]
  rfl

def insertion (v : α) : Statement := Database.statement (model α).insertSql (values v)

/-- The statement that writes the values of an entity to its row. -/
def revision (v : α) : Statement := Database.statement (model α).updateSql (values v)

/-- The statement that deletes the row of an entity. -/
def removal (v : α) : Statement :=
  Database.statement (model α).deleteSql [((id v).map Json.string).getD .null]

theorem silent_complete (v : α) : (complete v).Silent := by
  have hkept : ∀ {β : Type} (o : Option β) {x : Action β}, x.Silent → (kept o x).Silent := by
    intro β o x hx
    cases o with
    | none => exact hx
    | some b => exact Action.silent_done b
  refine (hkept _ ?_).before fun created => (hkept _ Blog.silent_newId).before fun id =>
    Action.silent_done _
  exact Action.silent_clock.before fun _ => Action.silent_done _

theorem runs_save_iff {v : α} {autocommit : Bool} {es : List Exchange}
    {out : Except StoreError α} :
    Action.Runs (Entity.save autocommit v).run es out ↔
      ∃ ds ws w written, es = ds ++ (ws ++ Entity.notes .insertMissed written) ∧
        Action.Runs (complete v) ds w ∧ Database.Executed (insertion w) autocommit ws written ∧
        out = written.map fun _ => w :=
  Entity.runs_save_iff (schema_eq.trans build_eq) (insertArgs_eq v) ofFields_encode

end Draft

/-- An insert stores an entity as it is completed, and a save yields and leaves behind what was
stored. -/
structure Draft.WritesBack {α : Type} [Entity α] [Draft α] (v : α) : Prop where
  /-- The arguments of the insert are those of the entity as it is completed, which the record then
  holds; this never fails. -/
  resolves : ∀ es out record,
    Action.Runs (Entity.toRecord (model α) v).insertArgs es (out, record) ↔
      ∃ w, Action.Runs (complete v) es w ∧ out = .ok (values w) ∧
        record = Entity.toRecord (model α) w
  /-- The clock and the generator may answer anything. -/
  answers : ∀ world : List Exchange → (e : Effect) → e.Answer, ∃ es w,
    Action.Runs (complete v) es w ∧ EachAfter (fun before x => x.answer = world before x.effect) es
  /-- The entity is read back from that record, its values stand in the columns of the insert, and
  an update of it would write the same. -/
  stores : ∀ es w, Action.Runs (complete v) es w →
    Entity.ofFields (Entity.toRecord (model α) w).values = .ok w ∧
      (∃ ins, Sql.Insertion.read? (Sql.native (model α).insertSql) = some ins ∧
        ins.table = (model α).table ∧ ins.row? (values w) = some (columns w)) ∧
      (Entity.toRecord (model α) w).updateArgs = values w
  /-- A save completes the entity and writes it, and is what the write is: where it succeeds, the
  entity as it is completed, which the variable then holds; where it fails, the variable holds what
  it held. -/
  saves : ∀ autocommit es out,
    Action.Runs (Entity.save autocommit v).run es out ↔
      ∃ ds ws w written, es = ds ++ (ws ++ Entity.notes .insertMissed written) ∧
        Action.Runs (complete v) ds w ∧ Database.Executed (insertion w) autocommit ws written ∧
        (∀ n, written = .ok n → out = .ok w ∧ Entity.held v out = w) ∧
        ∀ e, written = .error e → out = .error e ∧ Entity.held v out = v
  /-- Nothing fails after the insert, and where it has a transaction after its end. -/
  succeeds : ∀ autocommit es out st rs, Action.Runs (Entity.save autocommit v).run es out →
    ⟨.run st, .ok rs⟩ ∈ es → (autocommit = false → ⟨.control .commit, .ok ()⟩ ∈ es) →
    ∃ w, out = .ok w ∧ st = insertion w

instance : Draft User where
  declaration := User.declaration
  model := User.schema
  id := User.id
  createdAt := User.createdAt
  others u := [("email", .string u.email), ("passwd", .string u.passwd), ("admin", .bool u.admin),
    ("name", .string u.name), ("image", .string u.image)]
  stamped u id created := { u with id := some id, createdAt := some created }
  schema_eq := rfl
  build_eq := User.build_eq
  unnamed := rfl
  key_eq := rfl
  attrs_eq _ := rfl
  field?_id := rfl
  field?_createdAt := rfl
  ne_null := by simp
  encode_eq _ := rfl
  decode_encode := User.ofJson?_toFields
  id_stamped _ _ _ := rfl
  createdAt_stamped _ _ _ := rfl
  others_stamped _ _ _ := rfl

theorem Post.ofJson?_toFields (p : Post) : ofJson? (.object p.toFields) = some p := by
  obtain ⟨id, userId, userName, userImage, name, summary, content, createdAt⟩ := p
  have hget := @Blog.get?_entityFields id createdAt [("user_id", .string userId),
    ("user_name", .string userName), ("user_image", .string userImage), ("name", .string name),
    ("summary", .string summary), ("content", .string content)] (by simp)
  simp only [ofJson?, Json.members?, toFields, Json.optional, Json.required,
    Option.bind_eq_bind, Option.bind_some, hget]
  cases id <;> cases createdAt <;> rfl

theorem Comment.ofJson?_toFields (c : Comment) : ofJson? (.object c.toFields) = some c := by
  obtain ⟨id, blogId, userId, userName, userImage, content, createdAt⟩ := c
  have hget := @Blog.get?_entityFields id createdAt [("blog_id", .string blogId),
    ("user_id", .string userId), ("user_name", .string userName), ("user_image", .string userImage),
    ("content", .string content)] (by simp)
  simp only [ofJson?, Json.members?, toFields, Json.optional, Json.required,
    Option.bind_eq_bind, Option.bind_some, hget]
  cases id <;> cases createdAt <;> rfl

instance : Draft Post where
  declaration := Post.declaration
  model := Post.schema
  id := Post.id
  createdAt := Post.createdAt
  others p := [("user_id", .string p.userId), ("user_name", .string p.userName),
    ("user_image", .string p.userImage), ("name", .string p.name), ("summary", .string p.summary),
    ("content", .string p.content)]
  stamped p id created := { p with id := some id, createdAt := some created }
  schema_eq := rfl
  build_eq := Post.build_eq
  unnamed := rfl
  key_eq := rfl
  attrs_eq _ := rfl
  field?_id := rfl
  field?_createdAt := rfl
  ne_null := by simp
  encode_eq _ := rfl
  decode_encode := Post.ofJson?_toFields
  id_stamped _ _ _ := rfl
  createdAt_stamped _ _ _ := rfl
  others_stamped _ _ _ := rfl

instance : Draft Comment where
  declaration := Comment.declaration
  model := Comment.schema
  id := Comment.id
  createdAt := Comment.createdAt
  others c := [("blog_id", .string c.blogId), ("user_id", .string c.userId),
    ("user_name", .string c.userName), ("user_image", .string c.userImage),
    ("content", .string c.content)]
  stamped c id created := { c with id := some id, createdAt := some created }
  schema_eq := rfl
  build_eq := Comment.build_eq
  unnamed := rfl
  key_eq := rfl
  attrs_eq _ := rfl
  field?_id := rfl
  field?_createdAt := rfl
  ne_null := by simp
  encode_eq _ := rfl
  decode_encode := Comment.ofJson?_toFields
  id_stamped _ _ _ := rfl
  createdAt_stamped _ _ _ := rfl
  others_stamped _ _ _ := rfl

namespace Draft

/-- Only the write of a save sends anything. -/
theorem mem_write {α : Type} [Entity α] [Draft α] {v w : α} {ds ws : List Exchange}
    {written : Except StoreError Nat} {x : Exchange} {st : Statement}
    (hcomplete : Action.Runs (complete v) ds w)
    (hx : x ∈ ds ++ (ws ++ Entity.notes .insertMissed written)) (hst : x.sent? = some st) :
    x ∈ ws := by
  have hunsent : ∀ {es : List Exchange}, sentBy es = [] → x ∉ es := by
    intro es hes hmem
    have hsent := mem_sentBy hmem hst
    rw [hes] at hsent
    cases hsent
  rcases List.mem_append.1 hx with hx | hx
  · exact absurd hx (hunsent (silent_complete v _ _ hcomplete))
  · rcases List.mem_append.1 hx with hx | hx
    · exact hx
    · exact absurd hx (hunsent (Entity.sentBy_notes _ _))

theorem writesBack {α : Type} [Entity α] [Draft α] (v : α) : WritesBack v where
  resolves es out record := by
    rw [insertArgs_eq, Action.runs_map_iff]
    exact exists_congr fun w => and_congr_right fun _ => Prod.ext_iff
  answers world := (complete v).exists_runs_answered world
  stores es w _ := ⟨ofFields_encode w, row?_values w, updateArgs_eq w⟩
  saves autocommit es out := by
    rw [runs_save_iff]
    refine exists_congr fun ds => exists_congr fun ws => exists_congr fun w =>
      exists_congr fun written => and_congr_right fun _ => and_congr_right fun _ =>
      and_congr_right fun _ => ?_
    cases written with
    | ok n =>
      constructor
      · rintro rfl
        exact ⟨fun _ _ => ⟨rfl, rfl⟩, fun _ he => (by cases he)⟩
      · exact fun h => (h.1 n rfl).1
    | error e =>
      constructor
      · rintro rfl
        refine ⟨fun _ he => (by cases he), fun d hd => ?_⟩
        cases hd
        exact ⟨rfl, rfl⟩
      · exact fun h => (h.2 e rfl).1
  succeeds autocommit es out st rs h hmem hcommit := by
    obtain ⟨ds, ws, w, written, rfl, hcomplete, hexecuted, rfl⟩ := runs_save_iff.1 h
    have hrun := mem_write hcomplete hmem rfl
    have hended := fun hauto => mem_write hcomplete (hcommit hauto) rfl
    obtain ⟨rfl, rfl⟩ := hexecuted.of_answered hrun hended
    exact ⟨w, rfl, rfl⟩

end Draft

/-- Whatever the clock and the generator of ids answer, a save of a user, a post or a comment inserts
it with the id and the time of creation that it has or else with new ones, and writes back exactly
what it stored; it fails only where its write fails, and the variable then holds what it held. -/
theorem save_writes_back :
    (∀ u : User, Draft.WritesBack u) ∧ (∀ p : Post, Draft.WritesBack p) ∧
      ∀ c : Comment, Draft.WritesBack c :=
  ⟨Draft.writesBack, Draft.writesBack, Draft.writesBack⟩

end Weblog
