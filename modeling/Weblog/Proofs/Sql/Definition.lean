import Weblog.Proofs.Sql.Written

/-!
# Weblog.Proofs.Sql.Definition

The definition of a table as the database reads it.

* `Token.enclosed?`: the items of a list in parentheses; `enclosed?_intercalate`: a comma or a
  parenthesis within parentheses of an item ends none.
* `Types`: what the database takes for the type of a column, of which nothing more is known than
  that it is kept apart from what follows it.
* `TableDefinition`: the columns and the key that are read of a definition.
* `read?_createTableSql`: where every declared type is one, the columns of all fields in the order
  of their declaration, and the column of the key.
-/

namespace Weblog
namespace Sql
namespace Token

/-- How deep in parentheses it is after a token; there is no answer where a comma stands outside of
them, or where one is closed that was not opened. -/
def deepen (depth : Nat) : Token → Option Nat
  | .sign '(' => some (depth + 1)
  | .sign ')' => if depth = 0 then none else some (depth - 1)
  | .sign ',' => if depth = 0 then none else some depth
  | _ => some depth

/-- Commas stand in parentheses, and every parenthesis has its counterpart. -/
def IsEnclosed (ts : List Token) : Prop := ts.foldlM deepen 0 = some 0

instance (ts : List Token) : Decidable (IsEnclosed ts) := inferInstanceAs (Decidable (_ = some 0))

/-- The items between commas up to the parenthesis that closes the list, and what follows it; the
item that is begun is held last token first. -/
def enclosed? (depth : Nat) (begun : List Token) :
    List Token → Option (List (List Token) × List Token)
  | [] => none
  | t :: rest =>
    match deepen depth t with
    | some depth => enclosed? depth (t :: begun) rest
    | none =>
      if t = .sign ',' then (enclosed? 0 [] rest).map fun p => (begun.reverse :: p.1, p.2)
      else some ([begun.reverse], rest)

theorem IsEnclosed.append {xs ys : List Token} (hx : IsEnclosed xs) (hy : IsEnclosed ys) :
    IsEnclosed (xs ++ ys) := by
  rw [IsEnclosed, List.foldlM_append]
  exact (congrArg (· >>= fun d => ys.foldlM deepen d) hx).trans hy

theorem enclosed?_append {ts : List Token} {depth after : Nat}
    (h : ts.foldlM deepen depth = some after) (begun rest : List Token) :
    enclosed? depth begun (ts ++ rest) = enclosed? after (ts.reverse ++ begun) rest := by
  -- As long as `deepen` has an answer, the reader neither ends the item nor the list.
  induction ts generalizing depth begun with
  | nil =>
    cases h
    rfl
  | cons t ts ih =>
    rw [List.foldlM_cons] at h
    obtain ⟨next, hnext, hts⟩ := Option.bind_eq_some_iff.1 h
    rw [List.cons_append, enclosed?, hnext]
    simp only
    rw [ih hts, List.reverse_cons, List.append_assoc, List.singleton_append]

theorem enclosed?_intercalate {pieces : List (List Token)} (hne : pieces ≠ [])
    (h : ∀ p ∈ pieces, IsEnclosed p) (rest : List Token) :
    enclosed? 0 [] ([Token.sign ','].intercalate pieces ++ .sign ')' :: rest) =
      some (pieces, rest) := by
  -- Each piece leaves the reader at depth zero, where a comma or a parenthesis ends it.
  induction pieces with
  | nil => exact absurd rfl hne
  | cons p pieces ih =>
    have hp := h p List.mem_cons_self
    have hclose : deepen 0 (.sign ')') = none := rfl
    have hcomma : deepen 0 (.sign ',') = none := rfl
    cases pieces with
    | nil =>
      rw [List.intercalate_singleton, enclosed?_append hp, enclosed?, hclose]
      simp
    | cons q pieces =>
      have hrest := ih (by simp) fun r hr => h r (List.mem_cons_of_mem p hr)
      rw [List.intercalate_cons_cons, List.append_assoc, List.append_assoc, enclosed?_append hp,
        List.singleton_append, enclosed?, hcomma]
      simp only [if_true]
      rw [hrest]
      simp

end Token

/-- What a database takes for the type of a column, by its tokens. -/
structure Types where
  accepts : List Token → Bool
  /-- A comma in a type stands within parentheses. -/
  enclosed : ∀ ts, accepts ts = true → Token.IsEnclosed ts
  /-- No type goes on into a constraint. -/
  unconstrained : ∀ ts, accepts ts = true → Token.keyword "NOT" ∉ ts

def Types.Reads (types : Types) (ddl : String) : Prop :=
  (Token.scan? ddl.toList).any types.accepts = true

instance (types : Types) (ddl : String) : Decidable (types.Reads ddl) :=
  inferInstanceAs (Decidable (_ = true))

theorem Types.Reads.exists_tokens {types : Types} {ddl : String} (h : types.Reads ddl) :
    ∃ ts, Token.scan? ddl.toList = some ts ∧ types.accepts ts = true := by
  unfold Types.Reads at h
  cases hscan : Token.scan? ddl.toList with
  | none =>
    rw [hscan] at h
    cases h
  | some ts => exact ⟨ts, rfl, by simpa [hscan] using h⟩

namespace Types

/-- The types of fields of every family, with any length of short texts. -/
def isCommon (ts : List Token) : Bool :=
  match ts with
  | [.word w, .sign '(', .word ds, .sign ')'] =>
    decide (w = "VARCHAR".toList) && !ds.isEmpty && ds.all Char.isDigit
  | ts => [[.keyword "BOOLEAN"], [.keyword "BIGINT"], [.keyword "DOUBLE", .keyword "PRECISION"],
      [.keyword "TEXT"]].contains ts

theorem of_isCommon {ts : List Token} (h : isCommon ts = true) :
    Token.IsEnclosed ts ∧ Token.keyword "NOT" ∉ ts := by
  unfold isCommon at h
  split at h
  · rename_i w ds
    simp only [Bool.and_eq_true, decide_eq_true_eq] at h
    obtain ⟨⟨rfl, -⟩, hdigits⟩ := h
    have hdigit : ds ≠ "NOT".toList := by
      rintro rfl
      exact absurd hdigits (by decide)
    refine ⟨rfl, ?_⟩
    simpa [Token.keyword] using hdigit.symm
  · have hknown : ∀ ts ∈ [[Token.keyword "BOOLEAN"], [.keyword "BIGINT"],
        [.keyword "DOUBLE", .keyword "PRECISION"], [.keyword "TEXT"]],
        Token.IsEnclosed ts ∧ Token.keyword "NOT" ∉ ts := by decide
    exact hknown ts (by simpa using h)

/-- A database that knows these types. -/
def common : Types where
  accepts := isCommon
  enclosed _ h := (of_isCommon h).1
  unconstrained _ h := (of_isCommon h).2

end Types

structure ColumnDefinition where
  name : String
  type : List Token
  required : Bool
  deriving DecidableEq, Repr

/-- A table as it is defined, with the column of its primary key. -/
structure TableDefinition where
  table : String
  columns : List ColumnDefinition
  key : String
  deriving DecidableEq, Repr

namespace ColumnDefinition

def ofTokens? (types : Types) (ts : List Token) : Option ColumnDefinition := do
  let (name, rest) ← Token.name? ts
  match Text.splitOnce (.keyword "NOT") rest with
  | none => if types.accepts rest then some ⟨name, rest, false⟩ else none
  | some (type, rest) =>
    if types.accepts type ∧ rest = [.keyword "NULL"] then some ⟨name, type, true⟩ else none

def tokens (c : ColumnDefinition) : List Token :=
  .name c.name.toList ::
    (c.type ++ if c.required then [.keyword "NOT", .keyword "NULL"] else [])

theorem ofTokens?_tokens {types : Types} {c : ColumnDefinition}
    (h : types.accepts c.type = true) : ofTokens? types c.tokens = some c := by
  obtain ⟨name, type, required⟩ := c
  have hnot := types.unconstrained type h
  cases required with
  | false =>
    simp only [ofTokens?, tokens, Token.name?, Option.bind_eq_bind, Option.bind_some,
      Bool.false_eq_true, if_false, List.append_nil, Text.splitOnce_of_not_mem hnot, if_pos h,
      String.ofList_toList]
  | true =>
    simp only [ofTokens?, tokens, Token.name?, Option.bind_eq_bind, Option.bind_some, if_true,
      Text.splitOnce_append_cons hnot, h, and_self, String.ofList_toList]

theorem isEnclosed_tokens {types : Types} {c : ColumnDefinition}
    (h : types.accepts c.type = true) : Token.IsEnclosed c.tokens := by
  have hname : Token.IsEnclosed [.name c.name.toList] := rfl
  have hend : Token.IsEnclosed (if c.required then [.keyword "NOT", .keyword "NULL"] else []) := by
    cases c.required <;> rfl
  exact hname.append ((types.enclosed _ h).append hend)

end ColumnDefinition

namespace TableDefinition

def key? (ts : List Token) : Option String := do
  let rest ← Token.past? [.keyword "PRIMARY", .keyword "KEY", .sign '('] ts
  let (key, rest) ← Token.name? rest
  if rest = [.sign ')'] then some key else none

/-- Reads a definition whose last item names the column of the key. -/
def ofTokens? (types : Types) (ts : List Token) : Option TableDefinition := do
  let rest ← Token.past? [.keyword "CREATE", .keyword "TABLE", .keyword "IF", .keyword "NOT",
    .keyword "EXISTS"] ts
  let (table, rest) ← Token.name? rest
  let rest ← Token.past? [.sign '('] rest
  let (items, rest) ← Token.enclosed? 0 [] rest
  if rest.isEmpty then
    return ⟨table, ← items.dropLast.mapM (ColumnDefinition.ofTokens? types),
      ← items.getLast?.bind key?⟩
  else none

def read? (types : Types) (sql : String) : Option TableDefinition :=
  (Token.scan? sql.toList).bind (ofTokens? types)

def keyTokens (key : String) : List Token :=
  [.keyword "PRIMARY", .keyword "KEY", .sign '(', .name key.toList, .sign ')']

def items (t : TableDefinition) : List (List Token) :=
  t.columns.map ColumnDefinition.tokens ++ [keyTokens t.key]

theorem key?_keyTokens (key : String) : key? (keyTokens key) = some key := by
  simp [key?, keyTokens, Token.past?_cons, Token.past?_nil, Token.name?]

theorem ofTokens?_items {types : Types} {t : TableDefinition}
    (h : ∀ c ∈ t.columns, types.accepts c.type = true) :
    ofTokens? types ([.keyword "CREATE", .keyword "TABLE", .keyword "IF", .keyword "NOT",
        .keyword "EXISTS", .name t.table.toList, .sign '('] ++
          ([Token.sign ','].intercalate t.items ++ [.sign ')'])) = some t := by
  have hkey : Token.IsEnclosed (keyTokens t.key) := rfl
  have henclosed : ∀ p ∈ t.items, Token.IsEnclosed p := by
    intro p hp
    rcases List.mem_append.1 hp with hp | hp
    · obtain ⟨c, hc, rfl⟩ := List.mem_map.1 hp
      exact ColumnDefinition.isEnclosed_tokens (h c hc)
    · rw [List.mem_singleton.1 hp]
      exact hkey
  have hne : t.items ≠ [] := by simp [items]
  have hcolumns : t.items.dropLast.mapM (ColumnDefinition.ofTokens? types) = some t.columns := by
    rw [items, List.dropLast_concat, List.mapM_map]
    exact (mapM_eq_some (g := id) fun c hc => ColumnDefinition.ofTokens?_tokens (h c hc)).trans
      (by rw [List.map_id])
  have hlast : t.items.getLast?.bind key? = some t.key := by
    rw [items, List.getLast?_concat, Option.bind_some, key?_keyTokens]
  simp only [ofTokens?, List.cons_append, List.nil_append, Token.past?_cons, Token.past?_nil,
    Token.name?, Option.bind_eq_bind, Option.bind_some, Token.enclosed?_intercalate hne henclosed,
    hcolumns, hlast, String.ofList_toList]
  rfl

end TableDefinition

namespace Token

theorem scan?_createTable (table : List Char) {items : List Char} {its : List Token}
    (hi : scan? items = some its) :
    scan? ("CREATE TABLE IF NOT EXISTS ".toList ++ (quotedChars table ++ (" (\n  ".toList ++
        (items ++ "\n)".toList)))) =
      some ([.keyword "CREATE", .keyword "TABLE", .keyword "IF", .keyword "NOT", .keyword "EXISTS",
        .name table, .sign '('] ++ (its ++ [.sign ')'])) := by
  have hclose := scan?_delimiter (c := ')') (by decide) scan?_nil
  have hitems := scan?_append_delimiter (c := '\n') (by decide) hi hclose
  have hblanks := scan?_blanks ['\n', ' ', ' '] (by decide) hitems
  have hopen := scan?_delimiter (c := '(') (by decide) hblanks
  have htable := scan?_append_delimiter (c := ' ') (by decide) (scan?_quotedChars table) hopen
  have hexists := scan?_keyword "EXISTS" (by decide) (by decide) htable
  have hnot := scan?_keyword "NOT" (by decide) (by decide) hexists
  have hif := scan?_keyword "IF" (by decide) (by decide) hnot
  have hword := scan?_keyword "TABLE" (by decide) (by decide) hif
  exact scan?_keyword "CREATE" (by decide) (by decide) hword

theorem scan?_primaryKey (key : List Char) :
    scan? ("PRIMARY KEY (".toList ++ (quotedChars key ++ ")".toList)) =
      some [.keyword "PRIMARY", .keyword "KEY", .sign '(', .name key, .sign ')'] := by
  have hclose := scan?_append_delimiter (c := ')') (by decide) (scan?_quotedChars key) scan?_nil
  have hopen := scan?_delimiter (c := '(') (by decide) hclose
  have hkey := scan?_keyword "KEY" (by decide) (by decide) hopen
  exact scan?_keyword "PRIMARY" (by decide) (by decide) hkey

end Token

namespace ColumnDefinition

def ofField (f : Field) : ColumnDefinition :=
  ⟨f.columnName, (Token.scan? f.ddl.toList).getD [], f.isKey⟩

variable {types : Types} {f : Field}

theorem accepts_ofField (h : types.Reads f.ddl) : types.accepts (ofField f).type = true := by
  obtain ⟨ts, hts, haccepts⟩ := h.exists_tokens
  rw [ofField, hts]
  exact haccepts

theorem scan?_columnDefinition (h : types.Reads f.ddl) :
    Token.scan? (Schema.columnDefinition f).toList = some (ofField f).tokens := by
  obtain ⟨ts, hts, -⟩ := h.exists_tokens
  have hspace : " ".toList = [' '] := rfl
  rw [Schema.columnDefinition, tokens, ofField, hts, Option.getD_some, String.toList_append,
    String.toList_append, String.toList_append, toList_quoted, hspace]
  cases f.isKey with
  | false =>
    simp only [Bool.false_eq_true, if_false, String.toList_empty, List.append_nil,
      List.append_assoc, List.singleton_append]
    exact Token.scan?_append_delimiter (c := ' ') (by decide) (Token.scan?_quotedChars _) hts
  | true =>
    have hnull := Token.scan?_word (w := "NULL".toList) (by decide) (List.all_eq_true.1 (by decide))
    have hnot := Token.scan?_keyword "NOT" (by decide) (by decide) hnull
    have hend := Token.scan?_append_delimiter (c := ' ') (by decide) hts hnot
    have hdefinition := Token.scan?_append_delimiter (c := ' ') (by decide)
      (Token.scan?_quotedChars f.columnName.toList) hend
    simp only [if_true, List.append_assoc, List.singleton_append]
    exact hdefinition

end ColumnDefinition

end Sql

namespace Declaration

/-- The items of the definition of a table, each with its tokens: a column for every field, and the
key. -/
def definitions (d : Declaration) (key : Field) : List (List Char × List Sql.Token) :=
  d.fields.map (fun f =>
      ((Schema.columnDefinition f).toList, (Sql.ColumnDefinition.ofField f).tokens)) ++
    [("PRIMARY KEY (".toList ++ (Sql.quotedChars key.columnName.toList ++ ")".toList),
      Sql.TableDefinition.keyTokens key.columnName)]

theorem scan?_of_mem_definitions {d : Declaration} (key : Field) {types : Sql.Types}
    (htypes : ∀ f ∈ d.fields, types.Reads f.ddl) :
    ∀ x ∈ d.definitions key, Sql.Token.scan? x.1 = some x.2 := by
  simp only [definitions, List.forall_mem_append, List.forall_mem_map, List.forall_mem_singleton]
  exact ⟨fun f hf => Sql.ColumnDefinition.scan?_columnDefinition (htypes f hf),
    Sql.Token.scan?_primaryKey key.columnName.toList⟩

def tableDefinition (d : Declaration) (s : Schema) (key : Field) : Sql.TableDefinition :=
  ⟨s.table, d.fields.map Sql.ColumnDefinition.ofField, key.columnName⟩

theorem map_snd_definitions (d : Declaration) (s : Schema) (key : Field) :
    (d.definitions key).map Prod.snd = (d.tableDefinition s key).items := by
  simp [definitions, tableDefinition, Sql.TableDefinition.items, Function.comp_def]

namespace Built

variable {d : Declaration} {s : Schema} {key : Field}

theorem toList_createTableSql (hb : Built d s key) : s.createTableSql.toList =
    "CREATE TABLE IF NOT EXISTS ".toList ++ (Sql.quotedChars s.table.toList ++
      (" (\n  ".toList ++ ((',' :: ['\n', ' ', ' ']).intercalate
        ((d.definitions key).map Prod.fst) ++ "\n)".toList))) := by
  have hseparator : ",\n  ".toList = ',' :: ['\n', ' ', ' '] := rfl
  have hdefinitions : (s.declared.map Schema.columnDefinition ++
      ["PRIMARY KEY (" ++ s.columnOf s.key ++ ")"]).map String.toList =
        (d.definitions key).map Prod.fst := by
    rw [definitions, hb.declared_eq, hb.columnOf_key, List.map_append, List.map_append,
      List.map_map, List.map_map, List.map_singleton, List.map_singleton, String.toList_append,
      String.toList_append, Sql.toList_quoted, List.append_assoc]
    simp only [Function.comp_def]
  unfold Schema.createTableSql Schema.quotedTable
  simp only [String.toList_append, String.toList_intercalate, List.append_assoc,
    Sql.toList_quoted, hdefinitions, hseparator]

/-- Where every declared type is one, the definition of the table lists the columns of all fields in
the order of their declaration, and its key is the column of the key. -/
theorem read?_createTableSql (hb : Built d s key) {types : Sql.Types}
    (htypes : ∀ f ∈ d.fields, types.Reads f.ddl) :
    Sql.TableDefinition.read? types s.createTableSql = some (d.tableDefinition s key) := by
  have hscan := Sql.Token.scan?_createTable s.table.toList
    (Sql.Token.scan?_separated ['\n', ' ', ' '] (by decide)
      (scan?_of_mem_definitions key htypes))
  rw [map_snd_definitions d s key] at hscan
  rw [Sql.TableDefinition.read?, hb.toList_createTableSql, hscan, Option.bind_some]
  refine Sql.TableDefinition.ofTokens?_items (t := d.tableDefinition s key) ?_
  intro c hc
  obtain ⟨f, hf, rfl⟩ := List.mem_map.1 hc
  exact Sql.ColumnDefinition.accepts_ofField (htypes f hf)

end Built
end Declaration
end Weblog
