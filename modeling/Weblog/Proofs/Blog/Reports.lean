import Weblog.Proofs.Blog.Calls
import Weblog.Proofs.Blog.Edits
import Weblog.Proofs.Blog.Writing

/-!
# Weblog.Proofs.Blog.Reports

What the requests that write posts and comments report.

* `Reported`: the objects that stand for success; `keyOctet`: what tells them from refusals.
* `Writer`: a route that decides on a write and carries it out; the five of the blog.
* `Database.Committed`: a change of a table was executed and its transaction committed;
  `Executed.committed_iff`: that is so if its write succeeded.
* `Writer.runs_call_iff`, `Writer.course_of_runs`: a request to such a route writes nothing and does
  not report success, or it comes to one write, and goes on for every outcome of that.
* `writes_reported`: success is reported exactly where the write happened, and how many rows it
  affected makes a difference for the log alone.
-/

namespace Weblog

open Fallible

/-! ## Bodies -/

theorem Json.toList_compact_object (k : String) (v : Json) (rest : Fields) :
    ∃ tail, (Json.object ((k, v) :: rest)).compact.toList =
      '\x7b' :: (quoteChars k.toList ++ tail) := by
  have hquote : (quote k).toList = quoteChars k.toList := String.toList_ofList
  cases rest with
  | nil =>
    refine ⟨(":" ++ v.compact ++ "\x7d").toList, ?_⟩
    simp only [compact, compactFields, String.toList_append, hquote, List.append_assoc]
    rfl
  | cons f rest =>
    refine ⟨(":" ++ v.compact ++ "," ++ compactFields (f :: rest) ++ "\x7d").toList, ?_⟩
    simp only [compact, compactFields, String.toList_append, hquote, List.append_assoc]
    rfl

namespace Reply

/-- The first octet of the first key of an object in a body. -/
def keyOctet (response : Http.Response) : Option UInt8 := response.body[2]?

theorem keyOctet_ofFields {k : String} {c : Char} {cs : List Char} {b : UInt8}
    (hk : Json.quoteChars k.toList = '"' :: c :: cs) (hc : String.utf8EncodeChar c = [b])
    (v : Json) (rest : Fields) : keyOctet (ofFields ((k, v) :: rest)) = some b := by
  obtain ⟨tail, htail⟩ := Json.toList_compact_object k v rest
  have hbody : (ofFields ((k, v) :: rest)).body =
      Text.Utf8.encode ('\x7b' :: '"' :: c :: (cs ++ tail)) := by
    rw [hk] at htail
    exact congrArg Text.Utf8.encode htail
  have hopen : String.utf8EncodeChar '\x7b' = [123] := by decide
  have hquote : String.utf8EncodeChar '"' = [34] := by decide
  rw [keyOctet, hbody, Text.Utf8.encode, List.flatMap_cons, List.flatMap_cons, List.flatMap_cons,
    hopen, hquote, hc]
  rfl

/-- The payload of an error begins with its data. -/
theorem keyOctet_payload (e : ApiError) : keyOctet (ofFields e.payload) = some 100 := by
  have hpayload : e.payload = [("data", .string e.data), ("error", .string e.error),
    ("message", .string e.message)] := by
    simp only [ApiError.payload, Fields.ofList, Fields.set, List.foldl_cons, List.foldl_nil,
      String.reduceEq, String.reduceLT, if_true, if_false]
  rw [hpayload]
  exact @keyOctet_ofFields "data" 'd' _ 100 rfl (by decide) _ _

/-- The fields ask for no page, and their object is no payload of an error. -/
def Plain (fs : Fields) : Prop := template? fs = none ∧ keyOctet (ofFields fs) ≠ some 100

/-- No error is answered with such fields. -/
theorem Plain.responseTo_error_ne {fs : Fields} (h : Plain fs) (err : AppError) :
    responseTo (.error err) ≠ ofFields fs := by
  by_cases hapi : ∃ e, err = .api e
  · obtain ⟨e, rfl⟩ := hapi
    intro heq
    have hpayload : ofFields e.payload = ofFields fs := heq
    exact h.2 (hpayload ▸ keyOctet_payload e)
  · obtain ⟨-, hresponse⟩ := Entry.conclude_error none (fun _ _ => pure "") (not_exists.1 hapi)
    rw [hresponse]
    exact fun heq => err.status_ne_ok (congrArg Http.Response.status heq)

end Reply

theorem Blog.plain_id (id : String) : Reply.Plain [("id", .string id)] := by
  refine ⟨rfl, ?_⟩
  rw [@Reply.keyOctet_ofFields "id" 'i' _ 105 rfl (by decide)]
  decide

theorem Post.exists_toFields (p : Post) :
    ∃ rest, p.toFields = ("content", .string p.content) :: rest := by
  obtain ⟨id, _, _, _, _, _, _, createdAt⟩ := p
  cases id <;> cases createdAt <;>
    simp only [toFields, Blog.entityFields, Fields.ofList, Fields.set, Option.map_some,
      Option.map_none, Option.toList_some, Option.toList_none, List.cons_append, List.nil_append,
      List.append_nil, List.foldl_cons, List.foldl_nil, String.reduceEq, String.reduceLT, if_true,
      if_false, List.cons.injEq, true_and, exists_eq']

theorem Comment.exists_toFields (c : Comment) :
    ∃ rest, c.toFields = ("blog_id", .string c.blogId) :: rest := by
  obtain ⟨id, _, _, _, _, _, createdAt⟩ := c
  cases id <;> cases createdAt <;>
    simp only [toFields, Blog.entityFields, Fields.ofList, Fields.set, Option.map_some,
      Option.map_none, Option.toList_some, Option.toList_none, List.cons_append, List.nil_append,
      List.append_nil, List.foldl_cons, List.foldl_nil, String.reduceEq, String.reduceLT, if_true,
      if_false, List.cons.injEq, true_and, exists_eq']

theorem Post.plain_encode (p : Post) : Reply.Plain (Entity.encode p) := by
  constructor
  · rw [Reply.template?, Draft.get?_encode]
    rfl
  · obtain ⟨rest, hrest⟩ := p.exists_toFields
    have hencode : Entity.encode p = ("content", .string p.content) :: rest := hrest
    rw [hencode, @Reply.keyOctet_ofFields "content" 'c' _ 99 rfl (by decide)]
    decide

theorem Comment.plain_encode (c : Comment) : Reply.Plain (Entity.encode c) := by
  constructor
  · rw [Reply.template?, Draft.get?_encode]
    rfl
  · obtain ⟨rest, hrest⟩ := c.exists_toFields
    have hencode : Entity.encode c = ("blog_id", .string c.blogId) :: rest := hrest
    rw [hencode, @Reply.keyOctet_ofFields "blog_id" 'b' _ 98 rfl (by decide)]
    decide

/-! ## The course of a write -/

namespace Database

variable {st : Statement} {autocommit : Bool} {ws xs ys : List Exchange}
  {written : Except StoreError Nat} {rs : ResultSet}

/-- What a write that succeeds asks after its statement. -/
def closing (autocommit : Bool) : List Exchange :=
  if autocommit then [] else [⟨.control .commit, .ok ()⟩]

/-- A write succeeds in one way only. -/
theorem Executed.eq_of_ok {n : Nat} (h : Executed st autocommit ws (.ok n)) :
    ∃ rs : ResultSet, n = rs.affected ∧
      ws = opening autocommit ++ ⟨.run st, .ok rs⟩ :: closing autocommit := by
  cases h with
  | alone rs => exact ⟨rs, rfl, rfl⟩
  | transacted h =>
    cases h with
    | committed rs => exact ⟨rs, rfl, rfl⟩

theorem executed_ok (st : Statement) (autocommit : Bool) (rs : ResultSet) :
    Executed st autocommit (opening autocommit ++ ⟨.run st, .ok rs⟩ :: closing autocommit)
      (.ok rs.affected) := by
  cases autocommit with
  | true => exact .alone rs
  | false => exact .transacted (.committed rs)

theorem Executed.of_answered_ok {st' : Statement} {n : Nat}
    (h : Executed st autocommit ws (.ok n)) (hrun : ⟨.run st', .ok rs⟩ ∈ ws) :
    st' = st ∧ n = rs.affected ∧
      ws = opening autocommit ++ ⟨.run st', .ok rs⟩ :: closing autocommit := by
  cases h with
  | alone rs' =>
    simp only [List.mem_cons, List.not_mem_nil, or_false] at hrun
    rcases hrun with h | h <;> cases h
    exact ⟨rfl, rfl, rfl⟩
  | transacted h =>
    cases h with
    | committed rs' =>
      simp only [List.mem_cons, List.not_mem_nil, or_false] at hrun
      rcases hrun with h | h | h | h <;> cases h
      exact ⟨rfl, rfl, rfl⟩

/-- A write that fails after its statement was answered could not be committed, whatever was
answered. -/
theorem Executed.of_answered_error {st' : Statement} {e : StoreError}
    (h : Executed st autocommit ws (.error e)) (hrun : ⟨.run st', .ok rs⟩ ∈ ws) :
    ∃ d : DbError, ws = opening autocommit ++ [⟨.run st', .ok rs⟩, ⟨.control .commit, .error d⟩] ∧
      ∀ rs' : ResultSet, Executed st autocommit
        (opening autocommit ++ [⟨.run st', .ok rs'⟩, ⟨.control .commit, .error d⟩]) (.error e) := by
  cases h with
  | unconnected _ d => cases List.mem_singleton.1 hrun
  | failed d =>
    simp only [List.mem_cons, List.not_mem_nil, or_false] at hrun
    rcases hrun with h | h <;> cases h
  | transacted h =>
    cases h <;> simp only [List.mem_cons, List.not_mem_nil, or_false] at hrun
    case refused d => rcases hrun with h | h <;> cases h
    case uncommitted rs' d =>
      rcases hrun with h | h | h | h <;> cases h
      exact ⟨d, rfl, fun rs' => .transacted (.uncommitted rs' d)⟩
    case rolledBack d => rcases hrun with h | h | h | h <;> cases h
    case leftOpen d d' => rcases hrun with h | h | h | h | h <;> cases h

/-- A change of a table was executed and, where it has a transaction, that was begun and
committed. -/
def Committed (autocommit : Bool) (change : Change) (table : String) (es : List Exchange) : Prop :=
  (∃ st rs, ⟨.run st, .ok rs⟩ ∈ es ∧ st.Changes change table) ∧
    (autocommit = false → ⟨.control .start, .ok ()⟩ ∈ es ∧ ⟨.control .commit, .ok ()⟩ ∈ es)

variable {change : Change} {table : String} {before after es : List Exchange}

theorem not_committed_of_reads (h : ∀ st ∈ sentBy es, st.IsSelect) :
    ¬ Committed autocommit change table es := by
  rintro ⟨⟨st, rs, hrun, hst⟩, -⟩
  exact (h st (mem_sentBy hrun rfl)).not_isChange hst.isChange

/-- Between exchanges that read and exchanges that send nothing stands the write: what is sent and is
no select belongs to it. -/
theorem mem_of_between (hbefore : ∀ st ∈ sentBy before, st.IsSelect) (hafter : sentBy after = [])
    {x : Exchange} {st : Statement} (hx : x ∈ before ++ (ws ++ after)) (hsent : x.sent? = some st)
    (hst : ¬ st.IsSelect) : x ∈ ws := by
  rcases List.mem_append.1 hx with hx | hx
  · exact absurd (hbefore st (mem_sentBy hx hsent)) hst
  · rcases List.mem_append.1 hx with hx | hx
    · exact hx
    · have hmem := mem_sentBy hx hsent
      rw [hafter] at hmem
      cases hmem

/-- A change was committed if its write succeeded, and not otherwise. -/
theorem Executed.committed_iff (h : Executed st autocommit ws written)
    (hst : st.Changes change table) (hbefore : ∀ st ∈ sentBy before, st.IsSelect)
    (hafter : sentBy after = []) :
    Committed autocommit change table (before ++ (ws ++ after)) ↔ ∃ n, written = .ok n := by
  constructor
  · rintro ⟨⟨st', rs, hrun, hst'⟩, hended⟩
    have hrun := mem_of_between hbefore hafter hrun rfl fun hselect =>
      hselect.not_isChange hst'.isChange
    have hcommit : autocommit = false → ⟨.control .commit, .ok ()⟩ ∈ ws := fun ha =>
      mem_of_between hbefore hafter (hended ha).2 rfl (by decide)
    exact ⟨_, (h.of_answered hrun hcommit).2⟩
  · rintro ⟨n, rfl⟩
    obtain ⟨rs, rfl, rfl⟩ := h.eq_of_ok
    refine ⟨⟨st, rs, by simp, hst⟩, fun ha => ?_⟩
    rw [ha]
    exact ⟨by simp [opening], by simp [closing]⟩

end Database

namespace Blog

variable {α : Type} [Entity α]

/-- What is reported of a change that happened: the entity, or the id of the deleted one. -/
def Reported (α : Type) [Entity α] : Change → Fields → Prop
  | .delete, fs => ∃ id, fs = [("id", .string id)]
  | _, fs => ∃ v : α, fs = Entity.encode v

theorem Writing.reported (p : Writing α) (v : α) : Reported α p.change (p.report v) := by
  cases p with
  | insert _ => exact ⟨v, rfl⟩
  | update _ => exact ⟨v, rfl⟩
  | delete id _ => exact ⟨id, rfl⟩

/-- The exchanges of a write that was decided on, with what is logged of it. -/
def Writing.course (p : Writing α) (v : α) (ws : List Exchange) (written : Except StoreError Nat) :
    List Exchange :=
  ws ++ (Entity.notes p.missed written ++ Reply.loggedFor (p.outcome v written))

theorem Writing.sentBy_logged (p : Writing α) (v : α) (written : Except StoreError Nat) :
    sentBy (Entity.notes p.missed written ++ Reply.loggedFor (p.outcome v written)) = [] := by
  rw [sentBy_append, Entity.sentBy_notes, Reply.sentBy_loggedFor, List.append_nil]

theorem plain_reported (hplain : ∀ v : α, Reply.Plain (Entity.encode v)) (change : Change)
    (fs : Fields) (h : Reported α change fs) : Reply.Plain fs := by
  cases change with
  | delete =>
    obtain ⟨id, rfl⟩ := h
    exact plain_id id
  | insert | update =>
    obtain ⟨v, rfl⟩ := h
    exact hplain v

variable [Draft α]

/-- A route of the blog whose handler decides on a write of one kind and carries it out. -/
structure Writer (s : Settings) (α : Type) [Entity α] [Draft α] where
  route : Route
  change : Change
  decide : Call → Fallible AppError (Writing α)
  mem : route ∈ routes s
  verb : route.verb = .post
  handler_eq : ∀ c, route.handler c = decide c >>= Writing.carryOut s
  decides : ∀ c, Decides (Writing.Fits change c) (decide c)
  /-- A route that deletes declares the id. -/
  named : change = .delete → "id" ∈ (entryOf route).spec.named
  plain : ∀ fs, Reported α change fs → Reply.Plain fs

namespace Writer

variable {s : Settings} {w : Writer s α} {users : Directory} {render : Renderer}
  {r : Http.Request} {captured : List (List Char)} {es : List Exchange} {response : Http.Response}

/-- The response reports that the change happened. -/
def Reports (w : Writer s α) (response : Http.Response) : Prop :=
  ∃ fs, Reported α w.change fs ∧ response = Reply.ofFields fs

/-- The change of the table was executed and committed. -/
def Happened (w : Writer s α) (es : List Exchange) : Prop :=
  Database.Committed s.autocommit w.change (Draft.model α).table es

/-- The course of a request. -/
inductive Course (w : Writer s α) (users : Directory) (render : Renderer) (r : Http.Request)
    (captured : List (List Char)) : List Exchange → Http.Response → Prop where
  /-- Nothing is written, and no success is reported. -/
  | unwritten {es : List Exchange} {response : Http.Response} :
      (∀ st ∈ sentBy es, st.IsSelect) → ¬ w.Reports response →
      Course w users render r captured es response
  /-- It comes to a write after exchanges that only read, and goes on however that goes. -/
  | written (before : List Exchange) {ws : List Exchange} {p : Writing α} {v : α}
      {written : Except StoreError Nat} :
      (∀ st ∈ sentBy before, st.IsSelect) → p.change = w.change →
      (∀ id u, p = .delete id u → requested? (entryOf w.route) captured r "id" = some id) →
      Database.Executed (p.statement v) s.autocommit ws written →
      (∀ ws' written', Database.Executed (p.statement v) s.autocommit ws' written' →
        Action.Runs ((site s users render).serve r) (before ++ p.course v ws' written')
          (Reply.responseTo (p.outcome v written'))) →
      Course w users render r captured (before ++ p.course v ws written)
        (Reply.responseTo (p.outcome v written))

theorem not_reports_error (err : AppError) : ¬ w.Reports (Reply.responseTo (.error err)) := by
  rintro ⟨fs, hfs, heq⟩
  exact (w.plain fs hfs).responseTo_error_ne err heq

theorem not_reports_of_status (h : response.status ≠ 200) : ¬ w.Reports response := by
  rintro ⟨fs, -, rfl⟩
  exact h rfl

theorem reports_outcome_iff {p : Writing α} (hp : p.change = w.change) (v : α)
    (written : Except StoreError Nat) :
    w.Reports (Reply.responseTo (p.outcome v written)) ↔ ∃ n, written = .ok n := by
  cases written with
  | ok n => exact iff_of_true ⟨p.report v, hp ▸ p.reported v, rfl⟩ ⟨n, rfl⟩
  | error e => exact iff_of_false (not_reports_error (.store e)) nofun

theorem plain_of_outcome {p : Writing α} (hp : p.change = w.change) {v : α}
    {written : Except StoreError Nat} {fs : Fields} (h : p.outcome v written = .ok fs) :
    Reply.Plain fs := by
  cases written with
  | ok n =>
    cases h
    exact w.plain _ (hp ▸ p.reported v)
  | error e => cases h

/-- A call of the handler reads until it has decided. It refuses, or it comes to a write. -/
theorem runs_call_iff {visitor : Option SessionUser} {c : Call} {ts : List Exchange} :
    Action.Runs ((w.route.handler c).run >>= Entry.conclude visitor render) ts response ↔
      (∃ fs err, ts = fs ++ Reply.loggedFor (.error err) ∧
        Action.Runs (w.decide c).run fs (.error err) ∧
        response = Reply.responseTo (.error err)) ∨
      ∃ fs cs ws p v written, ts = (fs ++ cs) ++ p.course v ws written ∧
        Action.Runs (w.decide c).run fs (.ok p) ∧ Action.Runs p.completed cs v ∧
        Database.Executed (p.statement v) s.autocommit ws written ∧
        response = Reply.responseTo (p.outcome v written) := by
  have hplain : ∀ {fs p} v written, Action.Runs (w.decide c).run fs (.ok p) →
      ∀ gs, p.outcome v written = .ok gs → Reply.template? gs = none :=
    fun v written hdecide gs h => (plain_of_outcome ((w.decides c).holds _ _ hdecide).1 h).1
  rw [w.handler_eq, Action.runs_bind_iff]
  constructor
  · rintro ⟨hs, gs, out, rfl, hhandler, hconclude⟩
    rcases Fallible.runs_bind_iff.1 hhandler with
      ⟨err, hdecide, rfl⟩ | ⟨fs, cs, p, rfl, hdecide, hcarry⟩
    · obtain ⟨rfl, rfl⟩ := Entry.runs_conclude_error_iff.1 hconclude
      exact .inl ⟨hs, err, rfl, hdecide, rfl⟩
    · obtain ⟨cs, ws, v, written, rfl, hcomplete, hexecuted, rfl⟩ :=
        Writing.runs_carryOut_iff.1 hcarry
      obtain ⟨rfl, rfl⟩ := (Entry.runs_conclude_iff (hplain v written hdecide)).1 hconclude
      refine .inr ⟨fs, cs, ws, p, v, written, ?_, hdecide, hcomplete, hexecuted, rfl⟩
      simp only [Writing.course, List.append_assoc]
  · rintro (⟨fs, err, rfl, hdecide, rfl⟩ |
      ⟨fs, cs, ws, p, v, written, rfl, hdecide, hcomplete, hexecuted, rfl⟩)
    · exact ⟨fs, _, _, rfl, Fallible.runs_bind_iff.2 (.inl ⟨err, hdecide, rfl⟩),
        Entry.runs_conclude_error_iff.2 ⟨rfl, rfl⟩⟩
    · have hhandler := Fallible.runs_bind_iff.2 (.inr ⟨fs, _, p, rfl, hdecide,
        Writing.runs_carryOut_iff.2 ⟨cs, ws, v, written, rfl, hcomplete, hexecuted, rfl⟩⟩)
      refine ⟨_, _, _, ?_, hhandler,
        (Entry.runs_conclude_iff (hplain v written hdecide)).2 ⟨rfl, rfl⟩⟩
      simp only [Writing.course, List.append_assoc]

theorem course_of_runs (husers : users.Reads)
    (hmatches : (site s users render).Matches r (entryOf w.route) captured)
    (h : Action.Runs ((site s users render).serve r) es response) :
    w.Course users render r captured es response := by
  rcases uncalled_or_calls husers w.mem w.verb hmatches h with
    ⟨hreads, hstatus⟩ | ⟨visitor, before, ts, c, rfl, hcalls, hcall⟩
  · exact .unwritten hreads (not_reports_of_status hstatus)
  · rcases runs_call_iff.1 hcall with
      ⟨fs, err, rfl, hdecide, rfl⟩ |
        ⟨fs, cs, ws, p, v, written, rfl, hdecide, hcomplete, hexecuted, rfl⟩
    · refine .unwritten ?_ (not_reports_error err)
      rw [sentBy_append, sentBy_append, Reply.sentBy_loggedFor, List.append_nil]
      exact List.forall_mem_append.2 ⟨hcalls.reads, (w.decides c).reads fs _ hdecide⟩
    · obtain ⟨hp, hid⟩ := (w.decides c).holds fs p hdecide
      rw [← List.append_assoc]
      refine .written _ ?_ hp ?_ hexecuted fun ws' written' hexecuted' => ?_
      · rw [sentBy_append, sentBy_append, p.silent_completed cs v hcomplete, List.append_nil]
        exact List.forall_mem_append.2 ⟨hcalls.reads, (w.decides c).reads fs _ hdecide⟩
      · rintro id u rfl
        exact (hcalls.text "id" (w.named hp.symm)).symm.trans (hid id u rfl)
      · rw [List.append_assoc]
        exact hcalls.continues _ _ (runs_call_iff.2 (.inr
          ⟨fs, cs, ws', p, v, written', rfl, hdecide, hcomplete, hexecuted', rfl⟩))

/-! ## What is reported -/

/-- What is logged of a change that happened. -/
def warning (w : Writer s α) (affected : Nat) : List Exchange :=
  if affected = 1 then [] else [⟨.log w.change.missed, ()⟩]

/-- What a request to a writer reports is what happened. -/
structure Honest (w : Writer s α) (users : Directory) (render : Renderer) (r : Http.Request)
    (captured : List (List Char)) (es : List Exchange) (response : Http.Response) : Prop where
  /-- Success is reported exactly where the change happened. -/
  reports_iff : w.Reports response ↔ w.Happened es
  /-- The report is of the entity that was written, or of the id that was asked for. -/
  reports_written : w.Happened es → ∃ (p : Writing α) (v : α) (rs : ResultSet),
    p.change = w.change ∧
    (∀ id u, p = .delete id u → requested? (entryOf w.route) captured r "id" = some id) ∧
    ⟨.run (p.statement v), .ok rs⟩ ∈ es ∧ response = Reply.ofFields (p.report v)
  /-- How many rows were affected makes a difference for the log alone, and there for one warning. -/
  counted : ∀ st rs, ⟨.run st, .ok rs⟩ ∈ es → st.Changes w.change (Draft.model α).table →
    ∃ before after warn, es = before ++ ⟨.run st, .ok rs⟩ :: (after ++ warn rs.affected) ∧
      (w.Reports response → after = Database.closing s.autocommit ∧ warn = w.warning) ∧
      (¬ w.Reports response → warn = fun _ => []) ∧
      ∀ rs' : ResultSet, Action.Runs ((site s users render).serve r)
        (before ++ ⟨.run st, .ok rs'⟩ :: (after ++ warn rs'.affected)) response

variable {before ws : List Exchange} {p : Writing α} {v : α} {written : Except StoreError Nat}

theorem happened_iff (hbefore : ∀ st ∈ sentBy before, st.IsSelect) (hp : p.change = w.change)
    (h : Database.Executed (p.statement v) s.autocommit ws written) :
    w.Happened (before ++ p.course v ws written) ↔ ∃ n, written = .ok n :=
  h.committed_iff (hp ▸ p.changes_statement v) hbefore (p.sentBy_logged v written)

theorem counted_of_executed (hp : p.change = w.change)
    (h : Database.Executed (p.statement v) s.autocommit ws written) {st : Statement} {rs : ResultSet}
    (hrun : ⟨.run st, .ok rs⟩ ∈ ws)
    (hcontinues : ∀ ws' written', Database.Executed (p.statement v) s.autocommit ws' written' →
      Action.Runs ((site s users render).serve r) (before ++ p.course v ws' written')
        (Reply.responseTo (p.outcome v written'))) :
    ∃ first after warn, before ++ p.course v ws written =
        first ++ ⟨.run st, .ok rs⟩ :: (after ++ warn rs.affected) ∧
      (w.Reports (Reply.responseTo (p.outcome v written)) →
        after = Database.closing s.autocommit ∧ warn = w.warning) ∧
      (¬ w.Reports (Reply.responseTo (p.outcome v written)) → warn = fun _ => []) ∧
      ∀ rs' : ResultSet, Action.Runs ((site s users render).serve r)
        (first ++ ⟨.run st, .ok rs'⟩ :: (after ++ warn rs'.affected))
        (Reply.responseTo (p.outcome v written)) := by
  rw [reports_outcome_iff hp]
  cases written with
  | ok n =>
    obtain ⟨rfl, rfl, rfl⟩ := h.of_answered_ok hrun
    have hshape : ∀ rs : ResultSet, before ++ p.course v
        (Database.opening s.autocommit ++ ⟨.run (p.statement v), .ok rs⟩ ::
          Database.closing s.autocommit) (.ok rs.affected) =
        (before ++ Database.opening s.autocommit) ++ ⟨.run (p.statement v), .ok rs⟩ ::
          (Database.closing s.autocommit ++ w.warning rs.affected) := by
      intro rs
      have hwarning : Entity.notes p.missed (.ok rs.affected) = w.warning rs.affected := by
        rw [Writing.missed, hp]
        rfl
      have hlogged : Reply.loggedFor (p.outcome v (.ok rs.affected)) = [] := rfl
      rw [Writing.course, hwarning, hlogged, List.append_nil]
      simp only [List.append_assoc, List.cons_append]
    refine ⟨_, _, w.warning, hshape rs, fun _ => ⟨rfl, rfl⟩, fun hnot => absurd ⟨_, rfl⟩ hnot,
      fun rs' => ?_⟩
    rw [← hshape]
    exact hcontinues _ _ (Database.executed_ok _ _ rs')
  | error e =>
    obtain ⟨d, rfl, hagain⟩ := h.of_answered_error hrun
    have hshape : ∀ rs : ResultSet, before ++ p.course v
        (Database.opening s.autocommit ++ [⟨.run st, .ok rs⟩, ⟨.control .commit, .error d⟩])
          (.error e) =
        (before ++ Database.opening s.autocommit) ++ ⟨.run st, .ok rs⟩ ::
          (⟨.control .commit, .error d⟩ :: Reply.loggedFor (p.outcome v (.error e)) ++ []) := by
      intro rs
      rw [Writing.course, List.append_nil]
      simp only [List.append_assoc, List.cons_append, List.nil_append, Entity.notes]
    refine ⟨_, _, fun _ => [], hshape rs, fun hok => ?_, fun _ => rfl, fun rs' => ?_⟩
    · obtain ⟨_, hok⟩ := hok
      cases hok
    rw [← hshape]
    exact hcontinues _ _ (hagain rs')

theorem honest_of_course (h : w.Course users render r captured es response) :
    w.Honest users render r captured es response := by
  cases h with
  | unwritten hreads hreports =>
    have hnot : ¬ w.Happened es := Database.not_committed_of_reads hreads
    refine ⟨iff_of_false hreports hnot, fun h => absurd h hnot, fun st rs hmem hst => ?_⟩
    exact absurd hst.isChange (hreads _ (mem_sentBy hmem rfl)).not_isChange
  | @written before ws p v written hbefore hp hid hexecuted hcontinues =>
    have hhappened := happened_iff hbefore hp hexecuted
    refine ⟨(reports_outcome_iff hp v written).trans hhappened.symm, fun h => ?_,
      fun st rs hrun hst => ?_⟩
    · obtain ⟨n, rfl⟩ := hhappened.1 h
      obtain ⟨rs, -, rfl⟩ := hexecuted.eq_of_ok
      exact ⟨p, v, rs, hp, hid, by simp [Writing.course], rfl⟩
    · have hrun := Database.mem_of_between hbefore (p.sentBy_logged v written) hrun rfl
        fun hselect => hselect.not_isChange hst.isChange
      exact counted_of_executed hp hexecuted hrun hcontinues

end Writer

/-! ## The routes that write posts and comments -/

def postCreation (s : Settings) : Writer s Post where
  route := (((Route.post "/api/blogs" (createPost s)).request.keyword "name").keyword
    "summary").keyword "content"
  change := .insert
  decide := decideCreatePost
  mem := List.mem_iff_getElem?.2 ⟨13, rfl⟩
  verb := rfl
  handler_eq _ := createPost_eq
  decides := decides_createPost
  named := nofun
  plain := plain_reported Post.plain_encode .insert

def postUpdate (s : Settings) : Writer s Post where
  route := updateRoute s
  change := .update
  decide := decideUpdatePost
  mem := updateRoute_mem
  verb := rfl
  handler_eq _ := updatePost_eq
  decides := decides_updatePost
  named := nofun
  plain := plain_reported Post.plain_encode .update

def postDeletion (s : Settings) : Writer s Post where
  route := deleteRoute s
  change := .delete
  decide := decideDeletePost
  mem := deleteRoute_mem
  verb := rfl
  handler_eq _ := deletePost_eq
  decides := decides_deletePost
  named _ := List.mem_singleton_self "id"
  plain := plain_reported Post.plain_encode .delete

def commentCreation (s : Settings) : Writer s Comment where
  route := ((Route.post "/api/blogs/{id}/comments" (createComment s)).request.keyword
    "id").keyword "content"
  change := .insert
  decide := decideCreateComment
  mem := List.mem_iff_getElem?.2 ⟨18, rfl⟩
  verb := rfl
  handler_eq _ := createComment_eq
  decides := decides_createComment
  named := nofun
  plain := plain_reported Comment.plain_encode .insert

def commentDeletion (s : Settings) : Writer s Comment where
  route := (Route.post "/api/comments/{id}/delete" (deleteComment s)).request.keyword "id"
  change := .delete
  decide := decideDeleteComment
  mem := List.mem_iff_getElem?.2 ⟨19, rfl⟩
  verb := rfl
  handler_eq _ := deleteComment_eq
  decides := decides_deleteComment
  named _ := List.mem_singleton_self "id"
  plain := plain_reported Comment.plain_encode .delete

variable {s : Settings} {users : Directory} {render : Renderer} {r : Http.Request}
  {captured : List (List Char)} {es : List Exchange} {response : Http.Response}

/-- Of every run of a request to create, update or delete a post or to create or delete a comment,
whatever the database answers: the response is that of success, an entity or an id, exactly if the
change was executed and, without autocommit, its transaction was begun and committed. It is then the
entity that was written, or the id that was asked for. And had the change affected any other number
of rows, the response would be the same, and the log but for one warning. -/
theorem writes_reported (husers : users.Reads)
    (h : Action.Runs ((site s users render).serve r) es response) :
    ((site s users render).Matches r (entryOf (postCreation s).route) captured →
      (postCreation s).Honest users render r captured es response) ∧
    ((site s users render).Matches r (entryOf (postUpdate s).route) captured →
      (postUpdate s).Honest users render r captured es response) ∧
    ((site s users render).Matches r (entryOf (postDeletion s).route) captured →
      (postDeletion s).Honest users render r captured es response) ∧
    ((site s users render).Matches r (entryOf (commentCreation s).route) captured →
      (commentCreation s).Honest users render r captured es response) ∧
    ((site s users render).Matches r (entryOf (commentDeletion s).route) captured →
      (commentDeletion s).Honest users render r captured es response) :=
  ⟨fun hmatches => Writer.honest_of_course (Writer.course_of_runs husers hmatches h),
    fun hmatches => Writer.honest_of_course (Writer.course_of_runs husers hmatches h),
    fun hmatches => Writer.honest_of_course (Writer.course_of_runs husers hmatches h),
    fun hmatches => Writer.honest_of_course (Writer.course_of_runs husers hmatches h),
    fun hmatches => Writer.honest_of_course (Writer.course_of_runs husers hmatches h)⟩

/-- The update of a post that is gone is reported as a success, and so is the deletion of a post. -/
theorem writes_reported_staleUpdate :
    (∃ response, Action.Runs (editorSite.serve (editForm "/api/blogs/7")) staleUpdate response ∧
      (postUpdate (annSettings 86400)).Reports response ∧
      (postUpdate (annSettings 86400)).Happened staleUpdate) ∧
    ∃ response, Action.Runs (editorSite.serve (editForm "/api/blogs/7/delete")) deletion response ∧
      (postDeletion (annSettings 86400)).Reports response ∧
      (postDeletion (annSettings 86400)).Happened deletion := by
  have husers : editorUsers.Reads := fun _ => (Action.silent_done _).reads
  obtain ⟨updated, hupdate⟩ := runs_staleUpdate
  obtain ⟨deleted, hdelete⟩ := runs_deletion
  have hrevised : (postUpdate (annSettings 86400)).Happened staleUpdate :=
    ⟨⟨Draft.revision editedPost, ⟨[], [], 0⟩, by simp [staleUpdate],
      Post.schema.changes_updateSql _⟩, nofun⟩
  have hremoved : (postDeletion (annSettings 86400)).Happened deletion :=
    ⟨⟨Draft.removal oldPost, ⟨[], [], 1⟩, by simp [deletion],
      Post.schema.changes_deleteSql _⟩, nofun⟩
  refine ⟨⟨updated, hupdate, ?_, hrevised⟩, deleted, hdelete, ?_, hremoved⟩
  · exact ((writes_reported husers hupdate).2.1 matches_update).reports_iff.2 hrevised
  · exact ((writes_reported husers hdelete).2.2.1 matches_delete).reports_iff.2 hremoved

end Blog
end Weblog
