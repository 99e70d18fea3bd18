import Mathlib.Data.List.Nodup
import Weblog.Proofs.Blog.Inserts
import Weblog.Proofs.Sql.Table

/-!
# Weblog.Proofs.Blog.PostRows

The rows of the table of posts, and what the blog reads of them and makes of them.

* `PostRow`, `Texts`: a stored row, and the three columns of it that an update is for.
* `eq_of_alters_revision`, `eq_of_alters_removal`: what writing a post back and deleting it do with
  the rows.
* `exists_of_found`: a post that is found under an id is the row with this id, without any column
  missing but the time of creation.
* `Kept`: a row that was there at the beginning, with texts that it may have.
* `preserves_revision`, `preserves_removal`: writing such a row back with other texts that it may
  have, or deleting one, leaves every row such a row.
-/

namespace Weblog

/-- What is stored of a text that may be missing. -/
def Bound.ofText? (o : Option String) : Bound := o.elim .null .text

namespace Blog

open Sql

/-- The columns of a post that an update is for; each may have no value. -/
structure Texts where
  name : Option String
  summary : Option String
  content : Option String
  deriving DecidableEq, Repr

/-- A row of the table of posts: every column but the key may have no value. -/
structure PostRow where
  id : String
  userId : Option String
  userName : Option String
  userImage : Option String
  texts : Texts
  createdAt : Option Binary64
  deriving DecidableEq, Repr

namespace PostRow

def tuple (p : PostRow) : Tuple :=
  [("id", .text p.id), ("user_id", .ofText? p.userId), ("user_name", .ofText? p.userName),
    ("user_image", .ofText? p.userImage), ("name", .ofText? p.texts.name),
    ("summary", .ofText? p.texts.summary), ("content", .ofText? p.texts.content),
    ("created_at", p.createdAt.elim .null .float)]

/-- The row of a post with an id. -/
def ofPost (id : String) (post : Post) : PostRow :=
  ⟨id, some post.userId, some post.userName, some post.userImage,
    ⟨some post.name, some post.summary, some post.content⟩, post.createdAt⟩

def fields (p : PostRow) : Fields := Fields.ofList (p.tuple.map fun c => (c.1, c.2.toJson))

theorem readText_ofText? (o : Option String) : Json.readText (Bound.ofText? o).toJson = o := by
  cases o <;> rfl

/-- What is read of a row: the post with its columns, if none of them is missing but the time of
creation. -/
theorem ofJson?_fields (p : PostRow) :
    Post.ofJson? (.object p.fields) = (do
      return {
        id := some p.id
        userId := ← p.userId
        userName := ← p.userName
        userImage := ← p.userImage
        name := ← p.texts.name
        summary := ← p.texts.summary
        content := ← p.texts.content
        createdAt := p.createdAt }) := by
  have hget : ∀ key, Fields.get? key p.fields =
      Fields.get? key (p.tuple.map fun c => (c.1, c.2.toJson)) :=
    Fields.get?_ofList (by simp [tuple])
  have hcreated : Json.optional Json.readFloat p.fields "created_at" = some p.createdAt := by
    rw [Json.optional, hget]
    cases p with | mk _ _ _ _ _ createdAt => cases createdAt <;> rfl
  have hid : Json.optional Json.readText p.fields "id" = some (some p.id) := by
    rw [Json.optional, hget]
    rfl
  have htext : ∀ {key : String} {o : Option String},
      Fields.get? key (p.tuple.map fun c => (c.1, c.2.toJson)) = some (Bound.ofText? o).toJson →
      Json.required Json.readText p.fields key = o := by
    intro key o h
    rw [Json.required, hget, h, Option.bind_some, readText_ofText?]
  simp only [Post.ofJson?, Json.members?, Option.bind_eq_bind, Option.bind_some, hid, hcreated,
    @htext "user_id" p.userId rfl, @htext "user_name" p.userName rfl,
    @htext "user_image" p.userImage rfl, @htext "name" p.texts.name rfl,
    @htext "summary" p.texts.summary rfl, @htext "content" p.texts.content rfl]

/-- A row that can be read is the row of the post that is read. -/
theorem of_ofFields {p : PostRow} {post : Post} (h : Entity.ofFields p.fields = .ok post) :
    post.id = some p.id ∧ p = ofPost p.id post := by
  have hdecoded : Post.ofJson? (.object p.fields) = some post := Entity.ofFields_eq_ok_iff.1 h
  obtain ⟨id, userId, userName, userImage, ⟨name, summary, content⟩, createdAt⟩ := p
  simp only [ofJson?_fields, Option.bind_eq_bind, Option.bind_eq_some_iff] at hdecoded
  obtain ⟨_, rfl, _, rfl, _, rfl, _, rfl, _, rfl, _, rfl, hpost⟩ := hdecoded
  cases hpost
  exact ⟨rfl, rfl⟩

/-- The columns of a row but its key. -/
def written (p : PostRow) : Tuple := p.tuple.tail

theorem assign_written {p q : PostRow} (h : q.id = p.id) : q.tuple.assign p.written = p.tuple := by
  rw [tuple, h]
  rfl

theorem project?_tuple (p : PostRow) (table : String) :
    Selection.project? ⟨(Post.schema.key :: Post.schema.attrs).map fun a => ⟨a, a⟩, table⟩ p.tuple =
      some p.tuple := rfl

theorem meets_tuple_iff {p : PostRow} {id : String} :
    p.tuple.Meets ("id", .text id) ↔ p.id = id := by
  have hlookup : p.tuple.lookup "id" = some (.text p.id) := rfl
  rw [Tuple.Meets, hlookup]
  simp

end PostRow

/-! ## The statements as the database reads them -/

variable {id : String} {post : Post} {f : List Tuple → List Tuple}

/-- The statement that finds a post by its id. -/
def search (id : String) : Statement :=
  Database.statement Post.schema.selectByKeySql [.string id]

theorem built_post : Declaration.Built Post.declaration Post.schema idField := by
  obtain ⟨key, hb⟩ := Declaration.exists_built Post.build_eq
  have hkey : [idField] = [key] := hb.keys
  cases hkey
  exact hb

theorem read?_search : KeySelect.read? (search id).sql =
    some ⟨⟨(Post.schema.key :: Post.schema.attrs).map fun a => ⟨a, a⟩, "blogs"⟩, ⟨"id", 1⟩⟩ :=
  built_post.read?_selectByKeySql

theorem read?_revision : Update.read? (Draft.revision post).sql =
    some ⟨"blogs", (Post.schema.attrs.zipIdx 1).map fun a => ⟨a.1, a.2⟩, ⟨"id", 8⟩⟩ :=
  built_post.read?_updateSql

theorem read?_removal : Deletion.read? (Draft.removal post).sql = some ⟨"blogs", ⟨"id", 1⟩⟩ :=
  built_post.read?_deleteSql

theorem args_revision (hid : post.id = some id) :
    (Draft.revision post).args = (PostRow.ofPost id post).written.map Prod.snd ++ [.text id] := by
  have hcreated : Bound.ofJson ((post.createdAt.map Json.ofFloat).getD .null) =
      post.createdAt.elim .null .float := by
    cases post.createdAt <;> rfl
  have hkey : Bound.ofJson ((post.id.map Json.string).getD .null) = .text id := by
    rw [hid]
    rfl
  rw [← hkey, PostRow.written, PostRow.tuple, PostRow.ofPost, ← hcreated]
  rfl

theorem args_removal (hid : post.id = some id) : (Draft.removal post).args = [.text id] := by
  have hkey : (Draft.removal post).args = [Bound.ofJson ((post.id.map Json.string).getD .null)] := rfl
  rw [hkey, hid]
  rfl

/-- Writing a post back puts it into the row with its id. -/
theorem eq_of_alters_revision (hid : post.id = some id) (h : Alters (Draft.revision post) "blogs" f) :
    f = List.map fun row =>
      if row.Meets ("id", .text id) then row.assign (PostRow.ofPost id post).written else row := by
  have hnone : Deletion.read? (Draft.revision post).sql = none :=
    Deletion.read?_of_update (Post.schema.changes_updateSql (Draft.values post))
  cases h with
  | @update u values key hread _ hvalues hkey =>
    obtain rfl := Option.some.inj (read?_revision.symm.trans hread)
    rw [args_revision hid] at hvalues hkey
    obtain rfl : (PostRow.ofPost id post).written = values := Option.some.inj hvalues
    obtain rfl : ("id", Bound.text id) = key := Option.some.inj hkey
    rfl
  | delete hread _ _ =>
    rw [hnone] at hread
    cases hread

theorem eq_of_alters_removal (hid : post.id = some id) (h : Alters (Draft.removal post) "blogs" f) :
    f = List.filter fun row => ¬ row.Meets ("id", .text id) := by
  have hnone : Update.read? (Draft.removal post).sql = none :=
    Update.read?_of_delete (Post.schema.changes_deleteSql _)
  cases h with
  | update hread _ _ _ =>
    rw [hnone] at hread
    cases hread
  | @delete d key hread _ hkey =>
    obtain rfl := Option.some.inj (read?_removal.symm.trans hread)
    rw [args_removal hid] at hkey
    obtain rfl : ("id", Bound.text id) = key := Option.some.inj hkey
    rfl

/-! ## Rows that were there at the beginning -/

/-- A row that was there at the beginning, with texts that it may have. -/
def Kept (start : List PostRow) (may : PostRow → Texts → Prop) (row : Tuple) : Prop :=
  ∃ p ∈ start, ∃ e, may p e ∧ row = { p with texts := e }.tuple

variable {start : List PostRow} {may : PostRow → Texts → Prop} {p : PostRow} {e : Texts}

/-- A post that is found among such rows is one of them, without any column missing but the time of
creation. -/
theorem exists_of_found {q : KeySelect} {rows : List Tuple} {found : List Fields} {fs : Fields}
    (hrows : ∀ row ∈ rows, Kept start may row) (hread : KeySelect.read? (search id).sql = some q)
    (hfound : q.found? (search id).args rows = some found) (hfs : fs ∈ found)
    (hpost : Entity.ofFields fs = .ok post) :
    post.id = some id ∧ ∃ p ∈ start, p.id = id ∧ ∃ e, may p e ∧
      { p with texts := e } = PostRow.ofPost id post := by
  obtain rfl := Option.some.inj (read?_search.symm.trans hread)
  obtain ⟨key, row, t, hkey, hrow, hmeets, ht, rfl⟩ := KeySelect.exists_of_mem_found? hfound hfs
  obtain rfl : ("id", Bound.text id) = key := Option.some.inj hkey
  obtain ⟨p, hp, e, hmay, rfl⟩ := hrows row hrow
  obtain rfl : p.id = id := PostRow.meets_tuple_iff.1 hmeets
  obtain rfl : { p with texts := e }.tuple = t :=
    Option.some.inj ((PostRow.project?_tuple _ _).symm.trans ht)
  obtain ⟨hid, hsame⟩ := PostRow.of_ofFields hpost
  exact ⟨hid, p, hp, rfl, e, hmay, hsame⟩

theorem preserves_revision (hdistinct : (start.map PostRow.id).Nodup) (hp : p ∈ start)
    (hmay : may p e) (hid : post.id = some p.id)
    (hpost : { p with texts := e } = PostRow.ofPost p.id post)
    (h : Alters (Draft.revision post) "blogs" f) : Preserves (Kept start may) "id" f := by
  rw [eq_of_alters_revision hid h, ← hpost]
  refine preserves_update rfl ?_
  rintro row ⟨q, hq, d, -, rfl⟩ hmeets
  -- ids are distinct, and so it is the row that was found
  obtain rfl : q = p := List.inj_on_of_nodup_map hdistinct hq hp (PostRow.meets_tuple_iff.1 hmeets)
  exact ⟨q, hq, e, hmay, PostRow.assign_written rfl⟩

theorem preserves_removal (hid : post.id = some id) (h : Alters (Draft.removal post) "blogs" f) :
    Preserves (Kept start may) "id" f := by
  rw [eq_of_alters_removal hid h]
  exact preserves_filter _

end Blog
end Weblog
