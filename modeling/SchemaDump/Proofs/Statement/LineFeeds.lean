/-
**Where a line feed can come from.**

A statement is read line by line, so its names and clauses have no line feed. The value of a default can
have one all the same: an escape in the clause may stand for it, and a carriage return is printed as it.

* `lineFeed_not_mem_declared`, `lineFeed_not_mem_index`: what a statement names has no line feed;
* **`isFlat_defaultValue`**: and a flat clause has a flat default.
-/

import SchemaDump.Proofs.DefaultText
import SchemaDump.Proofs.Sql.Shown
import SchemaDump.Proofs.Statement.Accounting
import SchemaDump.Proofs.Statement.Attributes
import SchemaDump.Proofs.Statement.Delimiter
import SchemaDump.Proofs.Statement.KeyLine

namespace SchemaDump

open SchemaDump.Text SchemaDump.Sql

/-! ### Values -/

section Values

variable {tokens : List Token} (flat : ∀ token ∈ tokens, IsFlat token.text.toList)

include flat

theorem isFlat_printed : IsFlat (printed tokens).toList := by
  rw [toList_printed]
  intro c shown
  obtain ⟨token, listed, inside⟩ := List.mem_flatMap.mp shown
  exact flat token listed c inside

theorem isFlat_group {value : String} (read : (group tokens).1 = some value) : IsFlat value.toList := by
  unfold group at read
  split at read
  · split at read
    · next inside after cut =>
      obtain rfl := Option.some.inj read
      have front := (cutGroup_takes_front cut).1
      exact isFlat_printed fun token listed => flat token (front ▸ List.mem_append_left after listed)
    · cases read
  · cases read

theorem isFlat_literal {value : String} (read : (literal tokens).1 = some value) : IsFlat value.toList := by
  unfold literal at read
  split at read
  · cases read
  · next digits long rest =>
    obtain rfl := Option.some.inj read
    have number := flat (.number digits long) (List.mem_cons_of_mem _ List.mem_cons_self)
    have inside : digits.toList ⊆ (Token.number digits long).text.toList := by
      cases long <;> simp [Token.text]
    rw [String.toList_append]
    exact (by decide : IsFlat "-".toList).append (number.mono inside)
  · cases read
  · cases read
  · cases read
  · next content rest =>
    obtain rfl := Option.some.inj read
    have shown := flat (.literal .single content) List.mem_cons_self
    have inside : content.toList ⊆ (Token.literal .single content).text.toList := by
      simp [Token.text]
    have doubled := shown.mono (List.Subset.trans (doubleMarks_subset apostrophe _) inside)
    have mark : IsFlat [apostrophe] := by decide
    rw [quotedString, String.toList_ofList]
    exact (mark.append doubled).append mark
  · split at read
    · cases read
    · obtain rfl := Option.some.inj read
      exact flat _ List.mem_cons_self

theorem isFlat_value {value : String} (read : (defaultValue tokens).1 = some value) :
    IsFlat value.toList := by
  have left := (suffix_literal tokens).subset
  unfold defaultValue at read
  split at read
  · next found =>
    obtain rfl := Option.some.inj read
    exact isFlat_literal flat (congrArg Prod.fst found)
  · next rest found =>
    rw [found] at left
    exact isFlat_group (fun token listed => flat token (left listed)) read

theorem isFlat_of_mem_defaults {value : String} (listed : some value ∈ defaults tokens) :
    IsFlat value.toList := by
  obtain ⟨before, keyword, rest, rfl, -, read⟩ := exists_of_mem_defaults listed
  refine isFlat_value (fun token inside => flat token ?_) read
  have behind : token ∈ rest := (List.dropWhile_suffix _).subset inside
  exact List.mem_append_right before (List.mem_cons_of_mem keyword behind)

end Values

theorem suffix_typeName (tokens : List Token) : (typeName tokens).2 <:+ tokens := by
  have first := backtracks_word.suffix tokens
  unfold typeName
  split
  · next name rest found =>
    rw [found] at first
    have second := backtracks_group.suffix rest
    split
    · next grouped => exact (grouped ▸ second).trans first
    · next grouped => exact (grouped ▸ second).trans first
  · next rest found => rwa [found] at first

/-- **A flat clause has a flat default.** -/
theorem isFlat_defaultValue {clause value : String} (flat : IsFlat clause.toList) {definition : Declaration}
    (read : Declaration.ofClause? clause = some definition) (given : definition.defaultValue = some value) :
    IsFlat value.toList := by
  obtain ⟨tokens, found, defined⟩ := Option.bind_eq_some_iff.mp read
  have shown := (reads_of_tokens? found).isFlat flat
  unfold Declaration.ofTokens? at defined
  split at defined
  · next native rest type =>
    obtain rfl := Option.some.inj defined
    have behind : rest <:+ tokens := by
      have left := (suffix_typeName (skipBlanks tokens)).trans (suffix_skipBlanks _)
      rwa [type] at left
    have listed : some value ∈ defaults rest :=
      List.mem_of_getLast? (Option.join_eq_some_iff.mp given)
    exact isFlat_of_mem_defaults (fun token inside => shown token (behind.subset inside)) listed
  · cases defined

/-! ### Names -/

/-- The name of an index has only characters of its line. -/
theorem UniqueKey.name_subset {line : List Char} {key : UniqueKey}
    (read : UniqueKey.ofLine? line = some key) : key.name.toList ⊆ line := by
  rw [UniqueKey.ofLine?_eq, Option.bind_eq_some_iff] at read
  obtain ⟨names, behind, first⟩ := read
  obtain ⟨rest, found, rfl⟩ := Option.map_eq_some_iff.mp behind
  obtain ⟨tokens, scanned, keywords⟩ := Option.bind_eq_some_iff.mp found
  have left : rest <:+ tokens := by
    split at keywords
    · next pair =>
      exact Option.some.inj keywords ▸ ((backtracks_keywordPair .unique .key).read pair).suffix
    · cases keywords
  have named : key.name ∈ quotedNames rest := by
    cases names : quotedNames rest with
    | nil =>
      rw [names] at first
      cases first
    | cons name columns =>
      rw [names] at first
      obtain rfl := Option.some.inj first
      exact List.mem_cons_self
  obtain ⟨token, listed, quotes⟩ := List.mem_filterMap.mp named
  cases token with
  | quotedName name =>
    obtain rfl := Option.some.inj quotes
    exact (reads_of_tokens? scanned).quotedName_subset (left.subset listed)
  | _ => cases quotes

namespace Statement

variable {text : String}

theorem lineFeed_not_mem_line {line : Line} (listed : line ∈ Line.ofStatement text) :
    lineFeed ∉ line.text := by
  obtain ⟨place, found⟩ := List.mem_iff_getElem?.mp listed
  rw [Line.getElem?_ofStatement, Option.map_eq_some_iff] at found
  obtain ⟨raw, there, rfl⟩ := found
  have free := lineFeed_not_mem_of_mem_lines (List.mem_of_getElem? there)
  exact fun shown => free ((trim_sublist raw).subset shown)

/-- A declared column stands in a line. -/
theorem exists_line_of_declared {column : DeclaredColumn}
    (listed : column ∈ (Statement.ofText text).columns.entries) :
    ∃ line ∈ Line.ofStatement text, DeclaredColumn.ofLine? line.text = some column := by
  have clause := ClauseTable.clause?_of_mem _ listed
  rw [ofText_eq_collect, collect, ClauseTable.clause?_ofList, Option.map_eq_some_iff] at clause
  obtain ⟨other, last, sameClause⟩ := clause
  obtain ⟨known, sameName⟩ := List.mem_filter.mp (List.mem_of_getLast? last)
  obtain ⟨line, inText, declares⟩ := List.mem_filterMap.mp known
  have same : other = column := by
    cases other
    cases column
    simp_all
  refine ⟨line, inText, ?_⟩
  rw [Line.column?_eq] at declares
  split at declares
  · exact same ▸ declares
  · cases declares

/-- **Names and clauses have no line feed.** -/
theorem lineFeed_not_mem_declared {column : DeclaredColumn}
    (listed : column ∈ (Statement.ofText text).columns.entries) :
    lineFeed ∉ column.name.toList ∧ lineFeed ∉ column.clause.toList := by
  obtain ⟨line, inText, declares⟩ := exists_line_of_declared listed
  have free := lineFeed_not_mem_line inText
  obtain ⟨cut, found, rfl⟩ := Option.map_eq_some_iff.mp declares
  have whole := (cutQuotedName?_eq_some_iff.mp found).1
  have clause : dropFinalComma cut.after ⊆ cut.after := by
    unfold dropFinalComma
    split
    · exact (List.dropLast_sublist _).subset
    · exact List.Subset.refl _
  have inside : cut.name ⊆ line.text ∧ cut.after ⊆ line.text := by
    rw [whole]
    exact ⟨fun c shown => by simp [shown], fun c shown => by simp [shown]⟩
  rw [String.toList_ofList, String.toList_ofList]
  exact ⟨fun shown => free (inside.1 shown), fun shown => free (inside.2 (clause shown))⟩

/-- **Names of indexes have no line feed.** -/
theorem lineFeed_not_mem_index {name : String} (listed : name ∈ (Statement.ofText text).uniqueIndexes.names) :
    lineFeed ∉ name.toList := by
  rw [NameMap.mem_names_iff, ofText_eq_collect, (accountsFor_collect _).uniqueIndexes, Option.isSome_map,
    List.getLast?_isSome] at listed
  obtain ⟨key, known⟩ := List.exists_mem_of_ne_nil _ listed
  obtain ⟨declared, same⟩ := List.mem_filter.mp known
  obtain ⟨line, inText, declares⟩ := List.mem_filterMap.mp declared
  have read : UniqueKey.ofLine? line.text = some key := by
    unfold Line.uniqueKey? at declares
    split at declares
    · exact declares
    · cases declares
  rw [← beq_iff_eq.mp same]
  exact fun shown => lineFeed_not_mem_line inText (UniqueKey.name_subset read shown)

end Statement

end SchemaDump
