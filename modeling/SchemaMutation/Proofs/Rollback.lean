import Mathlib.Data.String.Basic
import SchemaMutation.Proofs.Statement

/-!
# Rollback

A compilation does all of its work or none of it (`compileMutation_allOrNothing`). What makes the second half hold on
every buffer is that the length a buffer had is the end of a character in everything that is appended to it
(`Buffer.truncate_push`).

Lengths count bytes and the text is made of characters, so that a length may lie inside a character, and exactly there a
cut is refused (`Buffer.truncate?_isSome_iff`). Calls only write behind what a buffer holds (`Buffer.after_eq`). A
length that was recorded before them is therefore still the end of a character, whatever they have written, and the
buffer that is cut back to it is the one that it was recorded from (`Buffer.calls_rollBack`).
-/

namespace SchemaMutation.Sql

open Query (Selection)
open String (utf8Len)

namespace Buffer

theorem length_eq (b : Buffer) : b.length = utf8Len b.text.toList := by
  rw [← String.utf8ByteSize_ofList, String.ofList_toList]
  rfl

theorem length_push (b : Buffer) (s : String) : (b.push s).length = b.length + s.utf8ByteSize :=
  String.utf8ByteSize_append

theorem takeBytes_append (cs rest : List Char) : takeBytes (utf8Len cs) (cs ++ rest) = some cs := by
  induction cs with
  | nil => rw [String.utf8Len_nil, takeBytes]
  | cons c cs ih =>
    have split := String.utf8Len_cons c cs
    have positive := c.utf8Size_pos
    obtain ⟨n, more⟩ : ∃ n, utf8Len (c :: cs) = n + 1 := Nat.exists_eq_succ_of_ne_zero (by omega)
    have within : c.utf8Size ≤ n + 1 := by omega
    have left : n + 1 - c.utf8Size = utf8Len cs := by omega
    rw [more, List.cons_append, takeBytes, if_pos within, left, ih, Option.map_some]

/-- Cutting a buffer back to a length that it had gives the buffer as it was then. -/
theorem truncate_push (b : Buffer) (s : String) : (b.push s).truncate? b.length = some b := by
  unfold truncate?
  split
  · rename_i short
    rw [length_push] at short
    have nothing : s = "" := String.utf8ByteSize_eq_zero_iff.mp (by omega)
    rw [nothing, push_empty]
  · have text : (b.push s).text.toList = b.text.toList ++ s.toList := String.toList_append
    rw [text, length_eq, takeBytes_append, Option.map_some, String.ofList_toList]

/-- A length inside a character is refused. -/
example : truncate? ⟨"é"⟩ 1 = none := rfl

end Buffer

/-- What is left of a root once its mutation is written: where it reads and which fields, but nothing that narrows or
    orders the read. -/
structure Spent (before after : Selection) : Prop where
  table : after.table = before.table
  schema : after.schema = before.schema
  action : after.action = before.action
  actionVar : after.actionVar = before.actionVar
  fields : after.fields = before.fields
  limit : after.paging.limit = none
  offset : after.paging.offset = none
  orderBy : after.orderBy = []
  distinctOn : after.distinctOn = []
  filter : after.filter = none
  args : after.args = []

theorem spent_cleared (root : Selection) : Spent root root.cleared :=
  ⟨rfl, rfl, rfl, rfl, rfl, rfl, rfl, rfl, rfl, rfl, rfl⟩

/-- The outcomes that a compilation may have, starting from a query and a buffer. -/
inductive AllOrNothing (c : Compiler) (vars : Variables) (q : Query) (b : Buffer) : Compiler.Outcome → Prop
  /-- Without a root nothing is tried. -/
  | untried (noRoot : q.selections = []) : AllOrNothing c vars q b ⟨.error .emptyQuery, q, b⟩
  /-- The attempt fails with some text appended, and the buffer is cut back between two characters. -/
  | refused {root : Selection} {e : Error} {text : String} (isRoot : q.root? = some root)
      (stopped : (c.writeRoot root vars).run.run b = (.error e, b.push text))
      (cut : (b.push text).truncate? b.length = some b) : AllOrNothing c vars q b ⟨.error e, q, b⟩
  /-- The statement is appended, and of the query only the root changes. -/
  | written {root after : Selection} {rest : List Selection} {st : Statement} (selections : q.selections = root :: rest)
      (stated : c.statement root vars = .ok st) (spent : Spent root after) :
      AllOrNothing c vars q b ⟨.ok ⟨root.action, st.name⟩, ⟨after :: rest⟩, ⟨b.text ++ st.text⟩⟩

/-- Whatever its collaborators do, a compilation that fails leaves the query and the buffer as they were, and one that
    succeeds appends its statement and takes from the root what the statement has used up. -/
theorem compileMutation_allOrNothing (c : Compiler) (vars : Variables) (q : Query) (b : Buffer) :
    AllOrNothing c vars q b (c.compileMutation vars q b) := by
  obtain ⟨selections⟩ := q
  cases selections with
  | nil => exact .untried rfl
  | cons root rest =>
    have isRoot : Query.root? ⟨root :: rest⟩ = some root := rfl
    cases stated : c.statement root vars with
    | error e =>
      have stopped : (c.writeRoot root vars).run.run b = (.error e, b.push "") := by
        rw [Compiler.writeRoot_run, stated, Buffer.push_empty]
        rfl
      rw [Compiler.compileMutation_of_error isRoot stated]
      exact .refused isRoot stopped (b.truncate_push "")
    | ok st =>
      rw [Compiler.compileMutation_of_statement isRoot stated]
      exact .written rfl stated (spent_cleared root)

end SchemaMutation.Sql

namespace SchemaMutation.Sql.Buffer

open String (utf8Len)

/-- The bytes of a text in UTF-8, character by character. -/
def encoded (text : String) : List UInt8 := text.toList.flatMap String.utf8EncodeChar

theorem length_utf8EncodeChars (cs : List Char) : (cs.flatMap String.utf8EncodeChar).length = utf8Len cs := by
  induction cs with
  | nil => rfl
  | cons c cs ih =>
    rw [List.flatMap_cons, List.length_append, String.length_utf8EncodeChar, ih, String.utf8Len_cons, Nat.add_comm]

theorem length_eq_encoded (b : Buffer) : b.length = (encoded b.text).length := by
  rw [length_eq, encoded, length_utf8EncodeChars]

theorem encoded_append (s r : String) : encoded (s ++ r) = encoded s ++ encoded r := by
  rw [encoded, String.toList_append, List.flatMap_append]
  rfl

theorem encoded_join (parts : List String) : encoded (String.join parts) = parts.flatMap encoded := by
  rw [encoded, String.toList_join, List.flatMap_assoc]
  rfl

theorem takeBytes_eq_some_iff {n : Nat} {cs taken : List Char} :
    takeBytes n cs = some taken ↔ taken <+: cs ∧ utf8Len taken = n := by
  constructor
  · intro found
    fun_induction takeBytes n cs generalizing taken with
    | case1 =>
      cases found
      exact ⟨List.nil_prefix, rfl⟩
    | case2 => cases found
    | case3 n c cs fits ih =>
      obtain ⟨more, further, rfl⟩ := Option.map_eq_some_iff.mp found
      obtain ⟨front, count⟩ := ih further
      refine ⟨List.cons_prefix_cons.mpr ⟨rfl, front⟩, ?_⟩
      rw [String.utf8Len_cons, count]
      omega
    | case4 => cases found
  · rintro ⟨⟨rest, rfl⟩, rfl⟩
    exact takeBytes_append taken rest

/-- A cut to a length that is not below the one of the buffer gives the buffer, and any other cut the buffer of that
    length which it begins with. -/
theorem truncate?_eq_some_iff {b cut : Buffer} {n : Nat} :
    b.truncate? n = some cut ↔ b.length ≤ n ∧ cut = b ∨ (∃ rest, b = cut.push rest) ∧ cut.length = n := by
  constructor
  · intro made
    by_cases short : b.length ≤ n
    · rw [truncate?, if_pos short] at made
      exact .inl ⟨short, (Option.some.inj made).symm⟩
    · rw [truncate?, if_neg short] at made
      obtain ⟨taken, found, rfl⟩ := Option.map_eq_some_iff.mp made
      obtain ⟨⟨rest, split⟩, count⟩ := takeBytes_eq_some_iff.mp found
      have text : b.text = String.ofList taken ++ String.ofList rest := by
        rw [← String.ofList_append, split, String.ofList_toList]
      exact .inr ⟨⟨String.ofList rest, congrArg Buffer.mk text⟩, (String.utf8ByteSize_ofList taken).trans count⟩
  · rintro (⟨short, rfl⟩ | ⟨⟨rest, rfl⟩, rfl⟩)
    · rw [truncate?, if_pos short]
    · exact cut.truncate_push rest

theorem isValid_iff {b : Buffer} {n : Nat} :
    String.Pos.Raw.IsValid b.text ⟨n⟩ ↔ ∃ cut : Buffer, (∃ rest, b = cut.push rest) ∧ cut.length = n := by
  rw [String.Pos.Raw.isValid_iff_exists_append]
  constructor
  · rintro ⟨front, rest, text, place⟩
    exact ⟨⟨front⟩, ⟨rest, congrArg Buffer.mk text⟩, (congrArg String.Pos.Raw.byteIdx place).symm⟩
  · rintro ⟨cut, ⟨rest, rfl⟩, rfl⟩
    exact ⟨cut.text, rest, rfl, rfl⟩

/-- A cut is refused exactly inside a character. -/
theorem truncate?_isSome_iff {b : Buffer} {n : Nat} :
    (b.truncate? n).isSome ↔ b.length < n ∨ String.Pos.Raw.IsValid b.text ⟨n⟩ := by
  rw [Option.isSome_iff_exists, isValid_iff]
  constructor
  · rintro ⟨cut, made⟩
    rcases truncate?_eq_some_iff.mp made with ⟨short, rfl⟩ | front
    · -- a cut to the present length is one behind the last character
      rcases Nat.lt_or_eq_of_le short with beyond | same
      · exact .inl beyond
      · exact .inr ⟨cut, ⟨"", cut.push_empty.symm⟩, same⟩
    · exact .inr ⟨cut, front⟩
  · rintro (beyond | ⟨cut, front⟩)
    · exact ⟨b, truncate?_eq_some_iff.mpr (.inl ⟨Nat.le_of_lt beyond, rfl⟩)⟩
    · exact ⟨cut, truncate?_eq_some_iff.mpr (.inr front)⟩

theorem listText_eq (items : List String) : listText items = String.join (items.intersperse ", ") := by
  rw [listText]
  induction items with
  | nil => rfl
  | cons first others ih =>
    cases others with
    | nil => simp
    | cons second others =>
      rw [String.intercalate_cons_cons, ih, List.intersperse_cons_cons, String.join_cons, String.join_cons,
        String.append_assoc]

inductive Call where
  | push (text : String)
  | quoted (name : String)
  | placeholder (name : String)
  | list (items : List String)
deriving DecidableEq, Repr

namespace Call

def run : Call → Buffer → Buffer
  | .push text, b => b.push text
  | .quoted name, b => b.quoted name
  | .placeholder name, b => b.placeholder name
  | .list items, b => b.list items

def parts : Call → List String
  | .push text => [text]
  | .quoted name => ["\"", name, "\""]
  | .placeholder name => ["\x7b\x7b", name, "\x7d\x7d"]
  | .list items => items.intersperse ", "

def size (call : Call) : Nat := (call.parts.flatMap encoded).length

theorem run_eq (call : Call) (b : Buffer) : call.run b = b.push (String.join call.parts) := by
  cases call with
  | push text => rw [run, parts, String.join_cons, String.join_nil, String.append_empty]
  | quoted name =>
    simp only [run, parts, quoted_eq, quotedText, String.join_cons, String.join_nil, String.append_empty,
      String.append_assoc]
  | placeholder name =>
    simp only [run, parts, placeholder_eq, placeholderText, String.join_cons, String.join_nil, String.append_empty,
      String.append_assoc]
  | list items => rw [run, parts, list_eq, listText_eq]

theorem length_run (call : Call) (b : Buffer) : (call.run b).length = b.length + call.size := by
  have text : (call.run b).text = b.text ++ String.join call.parts := congrArg Buffer.text (call.run_eq b)
  rw [length_eq_encoded, text, encoded_append, List.length_append, encoded_join, length_eq_encoded, size]

end Call

def after (b : Buffer) (calls : List Call) : Buffer := calls.foldl (fun b call => call.run b) b

theorem after_eq (b : Buffer) (calls : List Call) :
    b.after calls = b.push (String.join (calls.flatMap Call.parts)) := by
  induction calls generalizing b with
  | nil => exact b.push_empty.symm
  | cons call calls ih =>
    have next : b.after (call :: calls) = (call.run b).after calls := rfl
    rw [next, ih, call.run_eq, push_push, List.flatMap_cons, String.join_append]

/-- What calls have written can be taken back. -/
structure RollsBack (b : Buffer) (calls : List Call) : Prop where
  /-- The length that was recorded is a place between two characters. -/
  boundary : String.Pos.Raw.IsValid (b.after calls).text ⟨b.length⟩
  restored : (b.after calls).truncate? b.length = some b
  rolledBack : Compiler.rollback (b.after calls) b.length = b
  kept : ∀ length, (b.after calls).length ≤ length → (b.after calls).truncate? length = some (b.after calls)
  measured : (b.after calls).length = (encoded (b.after calls).text).length
  written : ∀ call : Call, (call.run (b.after calls)).text = (b.after calls).text ++ String.join call.parts
  grown : ∀ call : Call, (call.run (b.after calls)).length = (b.after calls).length + call.size

/-- Whatever calls have written into a buffer, cutting it back to its length before them is not refused and gives what
    it was, and its length has been the number of its bytes all the time. -/
theorem calls_rollBack (b : Buffer) (calls : List Call) : RollsBack b calls := by
  have front : ∃ rest, b.after calls = b.push rest := ⟨_, b.after_eq calls⟩
  have restored : (b.after calls).truncate? b.length = some b := truncate?_eq_some_iff.mpr (.inr ⟨front, rfl⟩)
  constructor
  case boundary => exact isValid_iff.mpr ⟨b, front, rfl⟩
  case restored => exact restored
  case rolledBack => rw [Compiler.rollback, restored, Option.getD_some]
  case kept =>
    intro length short
    exact truncate?_eq_some_iff.mpr (.inl ⟨short, rfl⟩)
  case measured => exact (b.after calls).length_eq_encoded
  case written =>
    intro call
    exact congrArg Buffer.text (call.run_eq (b.after calls))
  case grown =>
    intro call
    exact call.length_run (b.after calls)

/-- Behind two bytes a name in quotes: four bytes are the half of its first character. -/
example : let b : Buffer := Buffer.after ⟨"é"⟩ [.quoted "ñandú"]
    b.length = 11 ∧ b.truncate? 2 = some ⟨"é"⟩ ∧ b.truncate? 4 = none := by decide

end SchemaMutation.Sql.Buffer
