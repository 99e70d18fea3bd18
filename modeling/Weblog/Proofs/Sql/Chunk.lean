import Weblog.Proofs.Sql.Markers
import Weblog.Proofs.Sql.Token

/-!
# Weblog.Proofs.Sql.Chunk

Statements as sequences of plain text, literals and identifiers.

* `Chunk`: plain text, which has no quotes, or quotes of either kind around any text.
* `numberedFrom`: the text of chunks with the markers of the plain ones numbered from left to right.
* `renumber_textOf`: numbering the markers of a text of chunks does this and nothing else.
* `renumber_idempotent`: what is numbered has no marker left to number, whatever the text.
* `nativeWord_eq`: a counter of 32 bits gives the same numbers to fewer than 2^32 markers.
* `native_chunks`: all of this for the texts that are sent.
-/

namespace Weblog
namespace Sql

/-- A text between quotes; a quote of their kind inside it is written twice. -/
def Quoting.enclose (q : Quoting) (cs : List Char) : List Char :=
  q.mark :: (cs.flatMap (fun c => if c = q.mark then [q.mark, q.mark] else [c]) ++ [q.mark])

/-- A part of a statement: text without quotes, a literal, or an identifier. -/
inductive Chunk where
  | plain (cs : List Char) (unquoted : ∀ c ∈ cs, Quoting.ofMark? c = none)
  | quoted (q : Quoting) (cs : List Char)

/-- Every marker numbered, from `count + 1` on. -/
def numberAll (count : Nat) : List Char → List Char
  | [] => []
  | c :: rest =>
    if c = '?' then numberedMarker (count + 1) ++ numberAll (count + 1) rest
    else c :: numberAll count rest

namespace Chunk

def text : Chunk → List Char
  | plain cs _ => cs
  | quoted q cs => q.enclose cs

def marks : Chunk → Nat
  | plain cs _ => cs.count '?'
  | quoted _ _ => 0

def numbered (count : Nat) : Chunk → List Char
  | plain cs _ => numberAll count cs
  | quoted q cs => q.enclose cs

end Chunk

def textOf (chunks : List Chunk) : List Char := chunks.flatMap Chunk.text

/-- The text of chunks with the markers of the plain ones numbered, from `count + 1` on. -/
def numberedFrom (count : Nat) : List Chunk → List Char
  | [] => []
  | c :: rest => c.numbered count ++ numberedFrom (count + c.marks) rest

/-! ## Chunks -/

theorem Quoting.quoteAfter_mark (q : Quoting) : quoteAfter none q.mark = some q.mark := by
  cases q <;> decide

theorem quoteAfter_of_unquoted {c : Char} (h : Quoting.ofMark? c = none) :
    quoteAfter none c = none := by
  unfold Quoting.ofMark? at h
  split at h
  · cases h
  · rename_i hname
    split at h
    · cases h
    · rename_i hliteral
      exact if_neg (not_or.2 ⟨hliteral, hname⟩)

/-- Plain text ends outside quotes, all its markers count, and all are numbered. -/
theorem renumber_plain {cs : List Char} (h : ∀ c ∈ cs, Quoting.ofMark? c = none) (count : Nat) :
    openAfter none cs = none ∧ markerCount none cs = cs.count '?' ∧
      renumber none count cs = numberAll count cs := by
  induction cs generalizing count with
  | nil => exact ⟨rfl, rfl, rfl⟩
  | cons c cs ih =>
    have hopen := quoteAfter_of_unquoted (h c List.mem_cons_self)
    have hrest := fun count => ih (fun d hd => h d (List.mem_cons_of_mem c hd)) count
    refine ⟨?_, ?_, ?_⟩
    · rw [openAfter, List.foldl_cons, hopen]
      exact (hrest count).1
    · rw [markerCount, hopen, (hrest count).2.1, List.count_cons]
      by_cases hc : c = '?' <;> simp [hc]
    · rw [renumber, numberAll, hopen, (hrest count).2.2, (hrest (count + 1)).2.2]
      simp [numberedMarker]

theorem renumber_chunk (c : Chunk) (count : Nat) :
    openAfter none c.text = none ∧ markerCount none c.text = c.marks ∧
      renumber none count c.text = c.numbered count := by
  cases c with
  | plain cs unquoted => exact renumber_plain unquoted count
  | quoted q cs =>
    have hinert : Inert (q.enclose cs) := inert_enclosed q.quoteAfter_mark cs
    exact ⟨hinert.closed, hinert.unmarked, hinert.renumber count⟩

/-- A text of chunks is numbered chunk by chunk: every literal and identifier stays as it is, and
the markers of the plain chunks are numbered on from those before. -/
theorem renumber_textOf (chunks : List Chunk) (count : Nat) :
    renumber none count (textOf chunks) = numberedFrom count chunks := by
  induction chunks generalizing count with
  | nil => rfl
  | cons c rest ih =>
    obtain ⟨hclosed, hmarks, hnumbered⟩ := renumber_chunk c count
    rw [textOf, List.flatMap_cons, renumber_append, hclosed, hmarks, hnumbered, numberedFrom]
    congr 1
    exact ih _

/-! ## Any text -/

theorem inert_numberedMarker (k : Nat) : Inert (numberedMarker k) := by
  have hsign : Inert ['$'] := by decide
  exact hsign.append (quiet_digits fun _ hc => Text.isDigit_of_mem_digits hc).inert

theorem markerCount_numberedMarker_append (k : Nat) (ys : List Char) :
    markerCount none (numberedMarker k ++ ys) = markerCount none ys := by
  have hinert := inert_numberedMarker k
  rw [markerCount_append, hinert.unmarked, hinert.closed, Nat.zero_add]

/-- Outside quotes no marker is left, and quotes stand where they stood. -/
theorem markerCount_renumber (opened : Option Char) (count : Nat) (cs : List Char) :
    markerCount opened (renumber opened count cs) = 0 := by
  induction cs generalizing opened count with
  | nil => rfl
  | cons c cs ih =>
    rw [renumber]
    split
    · rename_i h
      rw [h.1]
      exact (markerCount_numberedMarker_append (count + 1) _).trans (ih none (count + 1))
    · rename_i h
      rw [markerCount, if_neg h, ih]

theorem renumber_idempotent (opened : Option Char) (count n : Nat) (cs : List Char) :
    renumber opened n (renumber opened count cs) = renumber opened count cs :=
  renumber_of_markerCount_eq_zero (markerCount_renumber opened count cs) n

/-! ## A counter of 32 bits -/

/-- Numbers the markers outside quotes with a counter of 32 bits. -/
def renumberWord (opened : Option Char) (count : UInt32) : List Char → List Char
  | [] => []
  | c :: rest =>
    if opened = none ∧ c = '?' then
      '$' :: (Text.digits (count + 1).toNat ++ renumberWord none (count + 1) rest)
    else c :: renumberWord (quoteAfter opened c) count rest

def nativeWord (sql : String) : String := String.ofList (renumberWord none 0 sql.toList)

theorem renumberWord_eq {opened : Option Char} {count : UInt32} {cs : List Char}
    (h : count.toNat + markerCount opened cs < UInt32.size) :
    renumberWord opened count cs = renumber opened count.toNat cs := by
  induction cs generalizing opened count with
  | nil => rfl
  | cons c cs ih =>
    rw [markerCount] at h
    rw [renumberWord, renumber]
    split
    · rename_i hmark
      rw [if_pos hmark] at h
      have hcount : (count + 1).toNat = count.toNat + 1 := by
        have hsize : UInt32.size = 4294967296 := rfl
        rw [UInt32.toNat_add, UInt32.toNat_one]
        omega
      rw [ih (by omega), hcount]
    · rename_i hkept
      rw [if_neg hkept] at h
      rw [ih h]

theorem markerCount_renumberWord (opened : Option Char) (count : UInt32) (cs : List Char) :
    markerCount opened (renumberWord opened count cs) = 0 := by
  induction cs generalizing opened count with
  | nil => rfl
  | cons c cs ih =>
    rw [renumberWord]
    split
    · rename_i h
      rw [h.1]
      exact (markerCount_numberedMarker_append (count + 1).toNat _).trans (ih none (count + 1))
    · rename_i h
      rw [markerCount, if_neg h, ih]

theorem nativeWord_eq {sql : String} (h : markerCount none sql.toList < UInt32.size) :
    nativeWord sql = native sql := by
  have hzero : (0 : UInt32).toNat + markerCount none sql.toList < UInt32.size := by
    rwa [UInt32.toNat_zero, Nat.zero_add]
  rw [nativeWord, native, renumberWord_eq hzero, UInt32.toNat_zero]

/-- Also where the counter wraps around, no marker is left to number. -/
theorem nativeWord_idempotent (sql : String) : nativeWord (nativeWord sql) = nativeWord sql := by
  have hnone : markerCount none (nativeWord sql).toList = 0 := by
    rw [nativeWord, String.toList_ofList, markerCount_renumberWord]
  rw [nativeWord_eq (by rw [hnone]; decide), native, renumber_of_markerCount_eq_zero hnone,
    String.ofList_toList]

/-- In a text of plain chunks, literals and identifiers the markers of the plain chunks are numbered
from left to right, and nothing else is changed. What is numbered stays as it is when it is numbered
again, whatever the text. After a text that ends outside quotes the markers of another are numbered
on from its own. A counter of 32 bits does the same for fewer than 2^32 markers, and what it has
numbered it leaves as it is for any number of them. -/
theorem native_chunks :
    (∀ name : String, (quoted name).toList = (Chunk.quoted .name name.toList).text) ∧
    (∀ chunks : List Chunk,
      native (String.ofList (textOf chunks)) = String.ofList (numberedFrom 0 chunks)) ∧
    (∀ sql : String, native (native sql) = native sql) ∧
    (∀ first second : String, openAfter none first.toList = none →
      native (first ++ second) = native first ++
        String.ofList (renumber none (markerCount none first.toList) second.toList)) ∧
    (∀ sql : String, markerCount none sql.toList < UInt32.size → nativeWord sql = native sql) ∧
    ∀ sql : String, nativeWord (nativeWord sql) = nativeWord sql := by
  refine ⟨toList_quoted, ?chunks, ?again, ?appended, fun sql => nativeWord_eq,
    nativeWord_idempotent⟩
  case chunks =>
    intro chunks
    rw [native, String.toList_ofList, renumber_textOf]
  case again =>
    intro sql
    rw [native, toList_native, renumber_idempotent, native]
  case appended =>
    intro first second hclosed
    rw [native, native, String.toList_append, renumber_append, hclosed, Nat.zero_add,
      String.ofList_append]

theorem unquoted_of_all {cs : List Char}
    (h : (cs.all fun c => (Quoting.ofMark? c).isNone) = true) :
    ∀ c ∈ cs, Quoting.ofMark? c = none := by
  simpa using h

/-- A literal with an apostrophe and a marker, before an identifier with both of them. -/
def quotedChunks : List Chunk :=
  [.plain "a = ? AND b = ".toList (unquoted_of_all (by decide)),
    .quoted .literal "it's ?".toList, .plain " AND ".toList (unquoted_of_all (by decide)),
    .quoted .name "c\"?'".toList, .plain " IN (?, ?)".toList (unquoted_of_all (by decide))]

theorem native_chunks_quoted :
    native "a = ? AND b = 'it''s ?' AND \"c\"\"?'\" IN (?, ?)" =
        "a = $1 AND b = 'it''s ?' AND \"c\"\"?'\" IN ($2, $3)" ∧
      native ("a = ? AND b = 'it''s ?'" ++ " AND c = ?") =
        "a = $1 AND b = 'it''s ?'" ++ " AND c = $2" ∧
      nativeWord "a = ? AND b = 'it''s ?'" = "a = $1 AND b = 'it''s ?'" := by
  obtain ⟨-, hchunks, -, happend, hword, -⟩ := native_chunks
  have hclosed : openAfter none "a = ? AND b = 'it''s ?'".toList = none := by decide
  have hcount : markerCount none "a = ? AND b = 'it''s ?'".toList < UInt32.size := by decide
  refine ⟨?_, ?_, ?_⟩
  · exact (hchunks quotedChunks).trans (by decide)
  · exact (happend _ _ hclosed).trans (by decide)
  · exact (hword _ hcount).trans (by decide)

end Sql
end Weblog
