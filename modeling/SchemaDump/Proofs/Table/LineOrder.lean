/-
**The order of the lines of a statement does not matter to the table.**

The order decides how columns are listed, which table name counts and which numbers skipped lines have.
Assembly sees none of this: it looks up clauses and indexes by name, and takes the primary key as it is.
So where each name is declared once, a statement with its lines in another order makes the same table.

* `Reordered`: two texts with the same lines in some order; `Reordered.of_perm` makes one from the other.
* `Reordered.perm`: what single lines say is said in both.
* `Statement.Agree`, `Table.assemble_of_agree`: what assembly sees of a statement, and that it sees no more.
* **`assemble_reordered`**: so the tables are the same.
-/

import SchemaDump.Catalog
import SchemaDump.Proofs.Statement.Accounting
import SchemaDump.Proofs.Text.Lines
import SchemaDump.Table.Assembly

namespace SchemaDump

open SchemaDump.Text

/-! ### The same lines in another order -/

/-- The texts of the lines that are not blank. -/
def Line.texts (statement : String) : List (List Char) :=
  ((Line.ofStatement statement).map Line.text).filter fun text => !text.isEmpty

/-- The texts have the same lines, up to their order, the blanks around them and blank lines. -/
def Reordered (first second : String) : Prop := (Line.texts first).Perm (Line.texts second)

namespace Line

theorem texts_eq (statement : String) :
    texts statement = ((lines statement.toList).map trim).filter fun text => !text.isEmpty := by
  have same : (Line.ofStatement statement).map Line.text = (lines statement.toList).map trim := by
    rw [Line.ofStatement, Line.numbered, List.map_map, ← List.zipIdx_map_fst 1 (lines _), List.map_map,
      List.zipIdx_map_fst]
    rfl
  rw [texts, same]

/-- A line feed at the end makes no line that is not blank. -/
theorem texts_lineFeed (statement : List Char) :
    texts (String.ofList (statement ++ [lineFeed])) = texts (String.ofList statement) := by
  rw [texts_eq, texts_eq, String.toList_ofList, String.toList_ofList]
  rcases lines_lineFeed statement with same | more
  · rw [same]
  · rw [more, List.map_append, List.filter_append]
    exact List.append_nil _

end Line

namespace Reordered

variable {first second : String}

/-- **The lines of a text, joined in any order, make a reordered text.** -/
theorem of_perm {texts : List (List Char)} (perm : texts.Perm (lines first.toList)) :
    Reordered first (String.ofList ([lineFeed].intercalate texts)) := by
  have joined : Line.texts (String.ofList ([lineFeed].intercalate texts)) =
      (texts.map trim).filter fun text => !text.isEmpty := by
    by_cases none : texts = []
    · rw [none]
      rfl
    · have free : ∀ text ∈ texts, lineFeed ∉ text := fun text listed =>
        lineFeed_not_mem_of_mem_lines (perm.mem_iff.mp listed)
      rw [← Line.texts_lineFeed, Line.texts_eq, String.toList_ofList, lines_intercalate free none]
  rw [Reordered, joined, Line.texts_eq]
  exact (perm.symm.map trim).filter _

/-- What single lines say, whatever their numbers, is said in both texts. -/
theorem perm (reordered : Reordered first second) {α : Type} (said : Line → Option α)
    (numberless : ∀ line, said line = said ⟨0, line.text⟩) (blank : said ⟨0, []⟩ = none) :
    ((Line.ofStatement first).filterMap said).Perm ((Line.ofStatement second).filterMap said) := by
  have texts : ∀ statement, (Line.ofStatement statement).filterMap said =
      (Line.texts statement).filterMap fun text => said ⟨0, text⟩ := fun statement => by
    rw [Line.texts, List.filterMap_filter, List.filterMap_map]
    refine List.filterMap_congr fun line _ => ?_
    rw [numberless, Function.comp_apply]
    cases line.text with
    | nil => exact blank
    | cons c rest => rfl
  rw [texts, texts]
  exact reordered.filterMap _

end Reordered

/-! ### What assembly sees of a statement -/

/-- **The statements have the same clauses, the same primary key and the same indexes.** -/
structure Statement.Agree (first second : Statement) : Prop where
  clauses : ∀ name, first.columns.clause? name = second.columns.clause? name
  primaryKey : first.primaryKey = second.primaryKey
  uniqueIndexes : first.uniqueIndexes = second.uniqueIndexes

/-- Assembly sees no more of a statement. -/
theorem Table.assemble_of_agree {first second : Statement} (agree : first.Agree second)
    (table text : String) (reports : List ReportedColumn) (source : Source) (types : TypeMapper)
    (choices : LoadChoices) :
    assemble table text first reports source types choices =
      assemble table text second reports source types choices := by
  have columns : assembleColumns table first reports source types choices =
      assembleColumns table second reports source types choices := by
    simp only [assembleColumns, Column.ofReport, agree.clauses, agree.primaryKey]
  simp only [assemble, columns, agree.primaryKey, agree.uniqueIndexes]

/-! ### Lines that declare each name once -/

/-- No column and no index is declared twice, and there is at most one primary key line. -/
structure DeclaresOnce (lines : List Line) : Prop where
  columns : ((lines.filterMap Line.column?).map DeclaredColumn.name).Nodup
  primaryKey : (lines.filterMap Line.primaryKey?).length ≤ 1
  uniqueKeys : ((lines.filterMap Line.uniqueKey?).map UniqueKey.name).Nodup

instance (lines : List Line) : Decidable (DeclaresOnce lines) :=
  decidable_of_iff (((lines.filterMap Line.column?).map DeclaredColumn.name).Nodup ∧
      (lines.filterMap Line.primaryKey?).length ≤ 1 ∧
      ((lines.filterMap Line.uniqueKey?).map UniqueKey.name).Nodup)
    ⟨fun ⟨columns, primaryKey, uniqueKeys⟩ => ⟨columns, primaryKey, uniqueKeys⟩,
      fun once => ⟨once.columns, once.primaryKey, once.uniqueKeys⟩⟩

theorem eq_of_perm_of_length_le_one {α : Type} {first second : List α} (perm : first.Perm second)
    (short : first.length ≤ 1) : first = second := by
  match first, short with
  | [], _ => exact perm.nil_eq
  | [item], _ => exact perm.singleton_eq

/-- **Reordered lines make statements that agree,** if each name is declared once. -/
theorem Reordered.agree {first second : String} (reordered : Reordered first second)
    (once : DeclaresOnce (Line.ofStatement first)) :
    (Statement.ofText first).Agree (.ofText second) := by
  have columns := reordered.perm Line.column? (fun _ => rfl) rfl
  have primaryKey := reordered.perm Line.primaryKey? (fun _ => rfl) rfl
  have uniqueKeys := (reordered.perm Line.uniqueKey? (fun _ => rfl) rfl).map fun key =>
    (key.name, key.columns)
  have distinct : (((Line.ofStatement first).filterMap Line.uniqueKey?).map fun key =>
      (key.name, key.columns)).map Prod.fst |>.Nodup := by
    rw [List.map_map]
    exact once.uniqueKeys
  rw [Statement.ofText_eq_collect, Statement.ofText_eq_collect]
  exact
    { clauses := ClauseTable.clause?_ofList_perm columns once.columns
      primaryKey := congrArg List.flatten (eq_of_perm_of_length_le_one primaryKey once.primaryKey)
      uniqueIndexes := NameMap.ofList_perm uniqueKeys distinct }

/-- **The order of the lines does not matter to the table.** If a statement declares each column and each
index once and has at most one primary key line, then the statement with its lines in any other order
makes the same table, the text apart, out of the same reported columns. -/
theorem assemble_reordered {first second : String} (reordered : Reordered first second)
    (once : DeclaresOnce (Line.ofStatement first)) (table text other : String)
    (reports : List ReportedColumn) (source : Source) (types : TypeMapper) (choices : LoadChoices) :
    { Table.assemble table text (.ofText first) reports source types choices with statement := other } =
      Table.assemble table other (.ofText second) reports source types choices := by
  rw [Table.assemble_of_agree (reordered.agree once)]
  rfl

/-- A statement with two columns, a key and an index. -/
def pairStatement : String :=
  "CREATE TABLE `p` (\n`a` int,\n`b` int,\nPRIMARY KEY (`b`,`a`),\nUNIQUE KEY `u` (`a`)\n)"

/-- The same statement from its last line to its first. -/
def turnedStatement : String :=
  String.ofList ([lineFeed].intercalate (lines pairStatement.toList).reverse)

theorem assemble_turnedStatement :
    { Table.assemble "p" pairStatement (.ofText pairStatement)
        [⟨"b", some false, "int"⟩, ⟨"a", some true, "int"⟩]
        Catalog.empty.source TypeName.ofNative {} with statement := turnedStatement } =
      Table.assemble "p" turnedStatement (.ofText turnedStatement)
        [⟨"b", some false, "int"⟩, ⟨"a", some true, "int"⟩]
        Catalog.empty.source TypeName.ofNative {} := by
  have once : DeclaresOnce (Line.ofStatement pairStatement) := by decide +kernel
  exact assemble_reordered (.of_perm (List.reverse_perm _)) once "p" pairStatement turnedStatement
    [⟨"b", some false, "int"⟩, ⟨"a", some true, "int"⟩] Catalog.empty.source TypeName.ofNative {}

end SchemaDump
