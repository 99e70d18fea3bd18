import Weblog.Proofs.Sql.Native
import Weblog.Proofs.Sql.Reading
import Weblog.Proofs.Sql.Schema

/-!
# Weblog.Proofs.Sql.Written

The statements of a checked model as the database reads them, after their markers are numbered.

* `read?_insertSql`: the columns of the fields in the order of a write, and the markers from one on.
* `read?_updateSql`: every column but the key's with its marker, and the key's with the last one.
* `read?_deleteSql`: the key's column with the first marker.
* `read?_selectSql`: the columns with the key first, each under the name of its attribute.
* `read?_selectByKeySql`: the same of the rows with a key.

Names of tables, columns and attributes are arbitrary.
-/

namespace Weblog
namespace Sql

namespace Token

theorem scan?_numberedMarker (k : Nat) :
    scan? (numberedMarker k) = some [.word (numberedMarker k)] := by
  refine scan?_word (by simp [numberedMarker]) ?_
  intro c hc
  rcases List.mem_cons.1 hc with rfl | hc
  · decide
  · exact isWordChar_of_isDigit (Text.isDigit_of_mem_digits hc)

theorem marker?_numberedMarker (k : Nat) : marker? [.word (numberedMarker k)] = some k :=
  Text.nat?_digits k

/-- A keyword with a space after it, before other tokens. -/
theorem scan?_keyword (s : String) (hne : s.toList ≠ [])
    (hword : s.toList.all isWordChar = true) {rest : List Char} {us : List Token}
    (hrest : scan? rest = some us) : scan? (s.toList ++ ' ' :: rest) = some (.keyword s :: us) :=
  scan?_append_delimiter (c := ' ') (by decide) (scan?_word hne (List.all_eq_true.1 hword)) hrest

theorem scan?_insert (table : List Char) {columns values : List Char} {cts vts : List Token}
    (hc : scan? columns = some cts) (hv : scan? values = some vts) :
    scan? ("INSERT INTO ".toList ++ (quotedChars table ++ (" (".toList ++ (columns ++
        (") VALUES (".toList ++ (values ++ ")".toList)))))) =
      some ([.keyword "INSERT", .keyword "INTO", .name table, .sign '('] ++ (cts ++ .sign ')' ::
        ([.keyword "VALUES", .sign '('] ++ (vts ++ [.sign ')'])))) := by
  have hend := scan?_append_delimiter (c := ')') (by decide) hv scan?_nil
  have hopen := scan?_delimiter (c := '(') (by decide) hend
  have hvalues := scan?_keyword "VALUES" (by decide) (by decide) hopen
  have hspace := scan?_delimiter (c := ' ') (by decide) hvalues
  have hcolumns := scan?_append_delimiter (c := ')') (by decide) hc hspace
  have hparen := scan?_delimiter (c := '(') (by decide) hcolumns
  have htable := scan?_append_delimiter (c := ' ') (by decide) (scan?_quotedChars table) hparen
  have hinto := scan?_keyword "INTO" (by decide) (by decide) htable
  exact scan?_keyword "INSERT" (by decide) (by decide) hinto

/-- A condition after another text. -/
theorem scan?_where {text condition : List Char} {ts cts : List Token} (ht : scan? text = some ts)
    (hc : scan? condition = some cts) :
    scan? (text ++ (" WHERE ".toList ++ condition)) = some (ts ++ .keyword "WHERE" :: cts) :=
  scan?_append_delimiter (c := ' ') (by decide) ht
    (scan?_keyword "WHERE" (by decide) (by decide) hc)

/-- The tokens of an update out of those of its list and its condition. -/
theorem scan?_update (table : List Char) {set condition : List Char} {sts cts : List Token}
    (hs : scan? set = some sts) (hc : scan? condition = some cts) :
    scan? ("UPDATE ".toList ++ (quotedChars table ++ (" SET ".toList ++ (set ++
        (" WHERE ".toList ++ condition))))) =
      some ([.keyword "UPDATE", .name table, .keyword "SET"] ++
        (sts ++ .keyword "WHERE" :: cts)) := by
  have hkeyword := scan?_keyword "SET" (by decide) (by decide) (scan?_where hs hc)
  have htable := scan?_append_delimiter (c := ' ') (by decide) (scan?_quotedChars table) hkeyword
  exact scan?_keyword "UPDATE" (by decide) (by decide) htable

theorem scan?_delete (table : List Char) {condition : List Char} {cts : List Token}
    (hc : scan? condition = some cts) :
    scan? ("DELETE FROM ".toList ++ (quotedChars table ++ (" WHERE ".toList ++ condition))) =
      some ([.keyword "DELETE", .keyword "FROM", .name table] ++ .keyword "WHERE" :: cts) := by
  have hfrom := scan?_keyword "FROM" (by decide) (by decide)
    (scan?_where (scan?_quotedChars table) hc)
  exact scan?_keyword "DELETE" (by decide) (by decide) hfrom

theorem scan?_select (table : List Char) {items : List Char} {its : List Token}
    (hi : scan? items = some its) :
    scan? ("SELECT ".toList ++ (items ++ (" FROM ".toList ++ quotedChars table))) =
      some ([.keyword "SELECT"] ++ (its ++ [.keyword "FROM", .name table])) := by
  have hfrom := scan?_keyword "FROM" (by decide) (by decide) (scan?_quotedChars table)
  have hitems := scan?_append_delimiter (c := ' ') (by decide) hi hfrom
  exact scan?_keyword "SELECT" (by decide) (by decide) hitems

/-- The tokens of a column with the marker of its value. -/
theorem scan?_assignment (column : List Char) (k : Nat) :
    scan? (quotedChars column ++ (" = ".toList ++ numberedMarker k)) =
      some [.name column, .sign '=', .word (numberedMarker k)] := by
  have hmarker := scan?_delimiter (c := ' ') (by decide) (scan?_numberedMarker k)
  have hequals := scan?_delimiter (c := '=') (by decide) hmarker
  exact scan?_append_delimiter (c := ' ') (by decide) (scan?_quotedChars column) hequals

end Token

namespace Insertion

theorem ofTokens?_lists (table : List Char) (columns : List String) (markers : List Nat) :
    ofTokens? ([.keyword "INSERT", .keyword "INTO", .name table, .sign '('] ++
        ([Token.sign ','].intercalate (columns.map fun c => [.name c.toList]) ++ .sign ')' ::
          ([.keyword "VALUES", .sign '('] ++
            ([Token.sign ','].intercalate (markers.map fun k => [.word (numberedMarker k)]) ++
              [.sign ')'])))) =
      some ⟨String.ofList table, columns, markers⟩ := by
  have hcolumns : Token.sign ')' ∉ [Token.sign ','].intercalate
      (columns.map fun c => [Token.name c.toList]) :=
    Token.not_mem_intercalate (by decide) (by simp)
  have hmarkers : Token.sign ')' ∉ [Token.sign ','].intercalate
      (markers.map fun k => [Token.word (numberedMarker k)]) :=
    Token.not_mem_intercalate (by decide) (by simp)
  have hnames : Token.items? Token.loneName? ([Token.sign ','].intercalate
      (columns.map fun c => [Token.name c.toList])) = some columns :=
    Token.items?_intercalate (by simp) (by simp) (by simp [Token.loneName?])
  have hnumbers : Token.items? Token.marker? ([Token.sign ','].intercalate
      (markers.map fun k => [Token.word (numberedMarker k)])) = some markers :=
    Token.items?_intercalate (by simp) (by simp) fun k _ => Token.marker?_numberedMarker k
  simp only [ofTokens?, List.cons_append, List.nil_append, Token.past?_cons, Token.past?_nil,
    Token.name?, Option.bind_eq_bind, Option.bind_some, Text.splitOnce_append_cons hcolumns,
    Text.splitOnce_append_cons hmarkers, hnames, hnumbers]
  rfl

end Insertion

theorem Assignment.ofTokens?_written (a : Assignment) :
    ofTokens? [.name a.column.toList, .sign '=', .word (numberedMarker a.marker)] = some a := by
  simp only [ofTokens?, Token.name?, Option.bind_eq_bind, Option.bind_some, Token.past?_cons,
    Token.past?_nil, Token.marker?_numberedMarker, String.ofList_toList]
  rfl

namespace Update

/-- An update is read as the columns that it lists, each with its marker. -/
theorem ofTokens?_lists (table : List Char) (set : List Assignment) (condition : Assignment) :
    ofTokens? ([.keyword "UPDATE", .name table, .keyword "SET"] ++
        ([Token.sign ','].intercalate (set.map fun a =>
            [.name a.column.toList, .sign '=', .word (numberedMarker a.marker)]) ++
          .keyword "WHERE" ::
            [.name condition.column.toList, .sign '=', .word (numberedMarker condition.marker)])) =
      some ⟨String.ofList table, set, condition⟩ := by
  have hwhere : Token.keyword "WHERE" ∉ [Token.sign ','].intercalate (set.map fun a =>
      [.name a.column.toList, .sign '=', .word (numberedMarker a.marker)]) :=
    Token.not_mem_intercalate (by decide) (by simp [numberedMarker, Token.keyword])
  have hset : Token.items? Assignment.ofTokens? ([Token.sign ','].intercalate (set.map fun a =>
      [.name a.column.toList, .sign '=', .word (numberedMarker a.marker)])) = some set :=
    Token.items?_intercalate (by simp) (by simp) fun a _ => Assignment.ofTokens?_written a
  simp only [ofTokens?, List.cons_append, List.nil_append, Token.past?_cons, Token.past?_nil,
    Token.name?, Option.bind_eq_bind, Option.bind_some, Text.splitOnce_append_cons hwhere, hset,
    Assignment.ofTokens?_written]
  rfl

end Update

theorem Deletion.ofTokens?_written (table : List Char) (condition : Assignment) :
    ofTokens? ([.keyword "DELETE", .keyword "FROM", .name table] ++ .keyword "WHERE" ::
        [.name condition.column.toList, .sign '=', .word (numberedMarker condition.marker)]) =
      some ⟨String.ofList table, condition⟩ := by
  simp only [ofTokens?, List.cons_append, List.nil_append, Token.past?_cons, Token.past?_nil,
    Token.name?, Option.bind_eq_bind, Option.bind_some, Assignment.ofTokens?_written]
  rfl

namespace SelectItem

/-- The text of an item: its column, with its label where that is another name. -/
def text (i : SelectItem) : List Char :=
  if i.column ≠ i.label then
    quotedChars i.column.toList ++ (" AS ".toList ++ quotedChars i.label.toList)
  else quotedChars i.label.toList

def tokens (i : SelectItem) : List Token :=
  if i.column ≠ i.label then [.name i.column.toList, .keyword "AS", .name i.label.toList]
  else [.name i.label.toList]

theorem scan?_text (i : SelectItem) : Token.scan? i.text = some i.tokens := by
  rw [text, tokens]
  split
  · have hlabel := Token.scan?_keyword "AS" (by decide) (by decide)
      (Token.scan?_quotedChars i.label.toList)
    exact Token.scan?_append_delimiter (c := ' ') (by decide)
      (Token.scan?_quotedChars i.column.toList) hlabel
  · exact Token.scan?_quotedChars i.label.toList

theorem ofTokens?_tokens (i : SelectItem) : ofTokens? i.tokens = some i := by
  obtain ⟨column, label⟩ := i
  rw [tokens]
  split
  · simp [ofTokens?, Token.keyword]
  · rename_i h
    have h : column = label := by simpa using h
    simp [ofTokens?, h]

theorem inert_text (i : SelectItem) : Inert i.text := by
  rw [text]
  split
  · have has : Inert " AS ".toList := by decide
    exact (inert_quotedChars _).append (has.append (inert_quotedChars _))
  · exact inert_quotedChars _

end SelectItem

namespace Selection

theorem ofTokens?_lists (table : List Char) (items : List SelectItem) :
    ofTokens? ([.keyword "SELECT"] ++ ([Token.sign ','].intercalate (items.map SelectItem.tokens) ++
        [.keyword "FROM", .name table])) = some ⟨items, String.ofList table⟩ := by
  have hfrom : Token.keyword "FROM" ∉
      [Token.sign ','].intercalate (items.map SelectItem.tokens) := by
    refine Token.not_mem_intercalate (by decide) ?_
    intro p hp
    obtain ⟨i, -, rfl⟩ := List.mem_map.1 hp
    rw [SelectItem.tokens]
    split <;> simp [Token.keyword]
  have hcomma : ∀ i ∈ items, Token.sign ',' ∉ i.tokens := by
    intro i _
    rw [SelectItem.tokens]
    split <;> simp [Token.keyword]
  have hne : ∀ i ∈ items, i.tokens ≠ [] := by
    intro i _
    rw [SelectItem.tokens]
    split <;> simp
  have hitems : Token.items? SelectItem.ofTokens?
      ([Token.sign ','].intercalate (items.map SelectItem.tokens)) = some items :=
    Token.items?_intercalate hcomma hne fun i _ => SelectItem.ofTokens?_tokens i
  simp only [ofTokens?, List.cons_append, List.nil_append, Token.past?_cons, Token.past?_nil,
    Token.name?, Option.bind_eq_bind, Option.bind_some, Text.splitOnce_append_cons hfrom, hitems]
  rfl

end Selection

theorem KeySelect.ofTokens?_lists (table : List Char) (items : List SelectItem)
    (condition : Assignment) :
    ofTokens? (([.keyword "SELECT"] ++ ([Token.sign ','].intercalate (items.map SelectItem.tokens) ++
        [.keyword "FROM", .name table])) ++ .keyword "WHERE" ::
          [.name condition.column.toList, .sign '=', .word (numberedMarker condition.marker)]) =
      some ⟨⟨items, String.ofList table⟩, condition⟩ := by
  have hitems : Token.keyword "WHERE" ∉
      [Token.sign ','].intercalate (items.map SelectItem.tokens) := by
    refine Token.not_mem_intercalate (by decide) ?_
    intro p hp
    obtain ⟨i, -, rfl⟩ := List.mem_map.1 hp
    rw [SelectItem.tokens]
    split <;> simp [Token.keyword]
  have hwhere : Token.keyword "WHERE" ∉ [Token.keyword "SELECT"] ++
      ([Token.sign ','].intercalate (items.map SelectItem.tokens) ++
        [.keyword "FROM", .name table]) := by
    simp only [List.mem_append, not_or]
    exact ⟨by simp [Token.keyword], hitems, by simp [Token.keyword]⟩
  rw [ofTokens?, Text.splitOnce_append_cons hwhere, Option.bind_eq_bind, Option.bind_some]
  dsimp only
  rw [Selection.ofTokens?_lists, Assignment.ofTokens?_written]
  rfl

end Sql

namespace Declaration.Built

variable {d : Declaration} {s : Schema} {key : Field}

theorem columnOf_writeOrder (hb : Built d s key) :
    (s.writeOrder.map s.columnOf).map String.toList =
      ((d.writeFields key).map Field.columnName).map fun c => Sql.quotedChars c.toList := by
  rw [hb.writeOrder_eq, List.map_map, List.map_map, List.map_map]
  refine List.map_congr_left ?_
  intro f hf
  simp only [Function.comp_apply]
  rw [hb.columnOf_of_mem (hb.mem_fields hf), Sql.toList_quoted]

/-- An insert lists the columns of the fields in the order of a write, and as many markers. -/
theorem read?_insertSql (hb : Built d s key) :
    Sql.Insertion.read? (Sql.native s.insertSql) =
      some ⟨s.table, (d.writeFields key).map Field.columnName,
        List.range' 1 (d.writeFields key).length⟩ := by
  have htext : s.insertSql.toList = "INSERT INTO ".toList ++ (Sql.quotedChars s.table.toList ++
      (" (".toList ++ ([',', ' '].intercalate (((d.writeFields key).map Field.columnName).map
        fun c => Sql.quotedChars c.toList) ++ (") VALUES (".toList ++
          ((Sql.markers (d.writeFields key).length).toList ++ ")".toList))))) := by
    have hlength : s.writeOrder.length = (d.writeFields key).length := by
      rw [hb.writeOrder_eq, List.length_map]
    have hnames : (Sql.commaSeparated (s.writeOrder.map s.columnOf)).toList = [',', ' '].intercalate
        (((d.writeFields key).map Field.columnName).map fun c => Sql.quotedChars c.toList) := by
      rw [Sql.toList_commaSeparated, hb.columnOf_writeOrder]
    unfold Schema.insertSql
    simp only [Schema.quotedTable, String.toList_append, List.append_assoc, Sql.toList_quoted,
      hnames, hlength]
  have hcolumns : Sql.Inert ([',', ' '].intercalate
      (((d.writeFields key).map Field.columnName).map fun c => Sql.quotedChars c.toList)) := by
    refine Sql.inert_intercalate (by decide) ?_
    intro x hx
    obtain ⟨c, -, rfl⟩ := List.mem_map.1 hx
    exact Sql.inert_quotedChars c.toList
  have hinsert : Sql.Inert "INSERT INTO ".toList := by decide
  have hopen : Sql.Inert " (".toList := by decide
  have hvalues : Sql.Inert ") VALUES (".toList := by decide
  have hclose : Sql.Inert ")".toList := by decide
  have hscan := Sql.Token.scan?_insert s.table.toList
    (Sql.Token.scan?_intercalate fun (c : String) (_ : c ∈ (d.writeFields key).map Field.columnName) =>
      Sql.Token.scan?_quotedChars c.toList)
    (Sql.Token.scan?_intercalate fun k (_ : k ∈ List.range' 1 (d.writeFields key).length) =>
      Sql.Token.scan?_numberedMarker k)
  rw [Sql.Insertion.read?, Sql.toList_native, htext, Sql.renumber_inert hinsert,
    Sql.renumber_inert (Sql.inert_quotedChars _), Sql.renumber_inert hopen,
    Sql.renumber_inert hcolumns, Sql.renumber_inert hvalues, Sql.renumber_markers, hclose.renumber,
    hscan, Option.bind_some, Sql.Insertion.ofTokens?_lists, String.ofList_toList]

theorem toList_keyCondition (hb : Built d s key) : s.keyCondition.toList =
    (Sql.quotedChars key.columnName.toList ++ " = ".toList) ++ '?' :: [] := by
  rw [Schema.keyCondition, String.toList_append, hb.columnOf_key, Sql.toList_quoted,
    List.append_assoc]
  rfl

theorem inert_key (key : Field) : Sql.Inert (Sql.quotedChars key.columnName.toList ++ " = ".toList) :=
  (Sql.inert_quotedChars _).append (by decide)

/-- An update sets every column but the key's, and the condition on the key has the last marker. -/
theorem read?_updateSql (hb : Built d s key) :
    Sql.Update.read? (Sql.native s.updateSql) =
      some ⟨s.table, (d.others.zipIdx 1).map fun x => ⟨x.1.columnName, x.2⟩,
        ⟨key.columnName, d.others.length + 1⟩⟩ := by
  have hitems : (s.attrs.map fun a => s.columnOf a ++ " = ?").map String.toList =
      (d.others.map fun f => Sql.quotedChars f.columnName.toList ++ " = ".toList).map
        (· ++ ['?']) := by
    rw [hb.attrs_eq, List.map_map, List.map_map, List.map_map]
    refine List.map_congr_left ?_
    intro f hf
    have hmem : f ∈ d.fields := (List.mem_filter.1 hf).1
    simp only [Function.comp_apply, hb.columnOf_of_mem hmem, String.toList_append,
      Sql.toList_quoted, List.append_assoc]
    rfl
  have hparts : ∀ x ∈ d.others.map fun f => Sql.quotedChars f.columnName.toList ++ " = ".toList,
      Sql.Inert x := by
    intro x hx
    obtain ⟨f, -, rfl⟩ := List.mem_map.1 hx
    exact (Sql.inert_quotedChars _).append (by decide)
  have hnumbered : ((d.others.map fun f => Sql.quotedChars f.columnName.toList ++
      " = ".toList).zipIdx 1).map (fun x => x.1 ++ Sql.numberedMarker x.2) =
      ((d.others.zipIdx 1).map fun x => (⟨x.1.columnName, x.2⟩ : Sql.Assignment)).map fun a =>
        Sql.quotedChars a.column.toList ++ (" = ".toList ++ Sql.numberedMarker a.marker) := by
    rw [List.zipIdx_map, List.map_map, List.map_map]
    simp [Function.comp_def]
  have htext : s.updateSql.toList = "UPDATE ".toList ++ (Sql.quotedChars s.table.toList ++
      (" SET ".toList ++ ([',', ' '].intercalate ((d.others.map fun f =>
        Sql.quotedChars f.columnName.toList ++ " = ".toList).map (· ++ ['?'])) ++
          (" WHERE ".toList ++ ((Sql.quotedChars key.columnName.toList ++ " = ".toList) ++
            '?' :: []))))) := by
    simp only [Schema.updateSql, Schema.quotedTable, String.toList_append, List.append_assoc,
      Sql.toList_quoted, Sql.toList_commaSeparated, hitems, hb.toList_keyCondition]
  have hupdate : Sql.Inert "UPDATE ".toList := by decide
  have hset : Sql.Inert " SET ".toList := by decide
  have hwhere : Sql.Inert " WHERE ".toList := by decide
  have hscan := Sql.Token.scan?_update s.table.toList
    (Sql.Token.scan?_intercalate fun (a : Sql.Assignment)
      (_ : a ∈ (d.others.zipIdx 1).map fun x => (⟨x.1.columnName, x.2⟩ : Sql.Assignment)) =>
        Sql.Token.scan?_assignment a.column.toList a.marker)
    (Sql.Token.scan?_assignment key.columnName.toList (d.others.length + 1))
  have hnil : Sql.renumber none (d.others.length + 1) [] = [] := rfl
  rw [Sql.Update.read?, Sql.toList_native, htext, Sql.renumber_inert hupdate,
    Sql.renumber_inert (Sql.inert_quotedChars _), Sql.renumber_inert hset,
    Sql.renumber_intercalate hparts, Sql.renumber_inert hwhere, Sql.renumber_marker (inert_key key),
    List.length_map, Nat.zero_add, Nat.zero_add, hnumbered, hnil, List.append_nil, List.append_assoc,
    hscan, Option.bind_some]
  exact (Sql.Update.ofTokens?_lists s.table.toList _ ⟨key.columnName, d.others.length + 1⟩).trans
    (by rw [String.ofList_toList])

/-- A deletion has a condition on the key, with the first marker. -/
theorem read?_deleteSql (hb : Built d s key) :
    Sql.Deletion.read? (Sql.native s.deleteSql) = some ⟨s.table, ⟨key.columnName, 1⟩⟩ := by
  have htext : s.deleteSql.toList = "DELETE FROM ".toList ++ (Sql.quotedChars s.table.toList ++
      (" WHERE ".toList ++
        ((Sql.quotedChars key.columnName.toList ++ " = ".toList) ++ '?' :: []))) := by
    simp only [Schema.deleteSql, Schema.quotedTable, String.toList_append, List.append_assoc,
      Sql.toList_quoted, hb.toList_keyCondition]
  have hdelete : Sql.Inert "DELETE FROM ".toList := by decide
  have hwhere : Sql.Inert " WHERE ".toList := by decide
  have hnil : Sql.renumber none 1 [] = [] := rfl
  have hscan := Sql.Token.scan?_delete s.table.toList
    (Sql.Token.scan?_assignment key.columnName.toList 1)
  rw [Sql.Deletion.read?, Sql.toList_native, htext, Sql.renumber_inert hdelete,
    Sql.renumber_inert (Sql.inert_quotedChars _), Sql.renumber_inert hwhere,
    Sql.renumber_marker (inert_key key), Nat.zero_add, hnil, List.append_nil, List.append_assoc, hscan,
    Option.bind_some]
  exact (Sql.Deletion.ofTokens?_written s.table.toList ⟨key.columnName, 1⟩).trans
    (by rw [String.ofList_toList])

/-- The columns of a select: that of every field under the name of its attribute, the key first. -/
def selected (d : Declaration) (key : Field) : List Sql.SelectItem :=
  (key :: d.others).map fun f => ⟨f.columnName, f.attr⟩

theorem toList_selectSql (hb : Built d s key) : s.selectSql.toList = "SELECT ".toList ++
    ([',', ' '].intercalate ((selected d key).map Sql.SelectItem.text) ++
      (" FROM ".toList ++ Sql.quotedChars s.table.toList)) := by
  have hitem : ∀ f ∈ d.fields, (s.selectItem f.attr).toList =
      (⟨f.columnName, f.attr⟩ : Sql.SelectItem).text := by
    intro f hf
    simp only [Schema.selectItem, hb.field?_of_mem hf, Sql.SelectItem.text]
    split
    · rw [String.toList_append, String.toList_append, Sql.toList_quoted, Sql.toList_quoted,
        List.append_assoc]
    · exact Sql.toList_quoted f.attr
  have hitems : ((s.key :: s.attrs).map s.selectItem).map String.toList =
      (selected d key).map Sql.SelectItem.text := by
    rw [selected, hb.key_eq, hb.attrs_eq, ← List.map_cons, List.map_map, List.map_map, List.map_map]
    refine List.map_congr_left ?_
    intro f hf
    refine hitem f ?_
    rcases List.mem_cons.1 hf with rfl | hf
    · exact hb.key_mem
    · exact (List.mem_filter.1 hf).1
  simp only [Schema.selectSql, Schema.quotedTable, String.toList_append, List.append_assoc,
    Sql.toList_quoted, Sql.toList_commaSeparated, hitems]

theorem inert_selectSql (hb : Built d s key) : Sql.Inert s.selectSql.toList := by
  have hlist : Sql.Inert ([',', ' '].intercalate ((selected d key).map Sql.SelectItem.text)) := by
    refine Sql.inert_intercalate (by decide) ?_
    intro x hx
    obtain ⟨i, -, rfl⟩ := List.mem_map.1 hx
    exact i.inert_text
  have hselect : Sql.Inert "SELECT ".toList := by decide
  have hfrom : Sql.Inert " FROM ".toList := by decide
  rw [hb.toList_selectSql]
  exact hselect.append (hlist.append (hfrom.append (Sql.inert_quotedChars _)))

theorem scan?_selectSql (hb : Built d s key) : Sql.Token.scan? s.selectSql.toList =
    some ([.keyword "SELECT"] ++ ([Sql.Token.sign ','].intercalate
      ((selected d key).map Sql.SelectItem.tokens) ++ [.keyword "FROM", .name s.table.toList])) := by
  rw [hb.toList_selectSql]
  exact Sql.Token.scan?_select s.table.toList (Sql.Token.scan?_intercalate
    fun (i : Sql.SelectItem) (_ : i ∈ selected d key) => i.scan?_text)

/-- A select lists the column of every field under the name of its attribute, the key first. -/
theorem read?_selectSql (hb : Built d s key) :
    Sql.Selection.read? (Sql.native s.selectSql) =
      some ⟨(key :: d.others).map fun f => ⟨f.columnName, f.attr⟩, s.table⟩ := by
  rw [Sql.Selection.read?, Sql.toList_native, hb.inert_selectSql.renumber, hb.scan?_selectSql,
    Option.bind_some, Sql.Selection.ofTokens?_lists, String.ofList_toList]
  rfl

/-- A select by key lists the same, of the rows that have the key that is bound to the first
marker. -/
theorem read?_selectByKeySql (hb : Built d s key) :
    Sql.KeySelect.read? (Sql.native s.selectByKeySql) =
      some ⟨⟨(key :: d.others).map fun f => ⟨f.columnName, f.attr⟩, s.table⟩,
        ⟨key.columnName, 1⟩⟩ := by
  have htext : s.selectByKeySql.toList = s.selectSql.toList ++ (" WHERE ".toList ++
      ((Sql.quotedChars key.columnName.toList ++ " = ".toList) ++ '?' :: [])) := by
    simp only [Schema.selectByKeySql, String.toList_append, List.append_assoc,
      hb.toList_keyCondition]
  have hwhere : Sql.Inert " WHERE ".toList := by decide
  have hnil : Sql.renumber none 1 [] = [] := rfl
  have hscan := Sql.Token.scan?_where hb.scan?_selectSql
    (Sql.Token.scan?_assignment key.columnName.toList 1)
  rw [Sql.KeySelect.read?, Sql.toList_native, htext, Sql.renumber_inert hb.inert_selectSql,
    Sql.renumber_inert hwhere, Sql.renumber_marker (inert_key key), Nat.zero_add, hnil,
    List.append_nil, List.append_assoc, hscan, Option.bind_some]
  exact (Sql.KeySelect.ofTokens?_lists s.table.toList _ ⟨key.columnName, 1⟩).trans
    (by rw [String.ofList_toList]; rfl)

end Declaration.Built
end Weblog
