/-
**A name with backticks in it, read in two ways.**

A server writes a name between backticks, with every backtick in it doubled. Key lines are read by tokens,
and the scanner undoes the doubling. Column lines are cut at their first two backticks, so a column gets
what stands in front of the first backtick in its name, and the rest of the name goes to the clause.

* `reads_writeName`: the scanner reads every written name back;
* `Mention.primaryKeyColumns?_eq`, `Mention.uniqueKey_ofLine?_eq`: so key lines give the names they
  mention, whatever they are;
* `ofLine?_writeName_of_free`, `ofLine?_writeName_of_ticked`: what a column line gives;
* `name_ofLine?_writeName_iff`: that is the name exactly if it has no backtick.
-/

import SchemaDump.Proofs.Statement.BodyLine
import SchemaDump.Statement.Declaration

namespace SchemaDump

open SchemaDump.Text SchemaDump.Sql

/-- A name as a server writes it. -/
def writeName (name : String) : List Char :=
  backtick :: (doubleMarks backtick name.toList ++ [backtick])

theorem writeName_append (name : String) (after : List Char) :
    writeName name ++ after = backtick :: (doubleMarks backtick name.toList ++ backtick :: after) := by
  simp [writeName]

theorem reads_writeName (name : String) {after : List Char} (stop : after.head? ≠ some backtick) :
    Reads (writeName name ++ after) [.quotedName name] after := by
  have read := scanName_doubleMarks name.toList stop
  rw [String.ofList_toList] at read
  rw [writeName_append]
  exact .single ((scanToken_backtick _).trans read)

theorem ReadsNames.writeName (name : String) {rest : List Char} (stop : rest.head? ≠ some backtick) :
    ReadsNames (writeName name ++ rest) [name] rest :=
  ⟨[.quotedName name], reads_writeName name stop, rfl⟩

/-! ### Key lines -/

/-- A place at which the scanner, on its way through a text, comes by a written name. -/
structure Mention (text : List Char) (name : String) where
  before : List String
  after : List Char
  behind : List String
  comesBy : ReadsNames text before (writeName name ++ after)
  /-- A third backtick would carry the name on. -/
  ends : after.head? ≠ some backtick
  goesOn : ReadsNames after behind []

namespace Mention

variable {text : List Char} {name : String}

/-- The name alone in parentheses. -/
def alone (name : String) : Mention (" (".toList ++ (writeName name ++ [')'])) name where
  before := []
  after := [')']
  behind := []
  comesBy := .space (.loneMark (by decide) (.refl _))
  ends := by decide
  goesOn := .loneMark (by decide) (.refl [])

variable (mention : Mention text name)

/-- The quoted names of the text, the written one among them. -/
def names : List String := mention.before ++ name :: mention.behind

theorem reads : ReadsNames text mention.names [] :=
  mention.comesBy.trans ((ReadsNames.writeName name mention.ends).trans mention.goesOn)

/-- **A primary key line gives the name as it was meant.** -/
theorem primaryKeyColumns?_eq (ends : EndsWord text) :
    primaryKeyColumns? (behindKeywords .primary .key text) = some mention.names :=
  mention.reads.primaryKeyColumns?_eq ends (List.append_ne_nil_of_right_ne_nil _ (List.cons_ne_nil _ _))

/-- **And so does a unique key line.** -/
theorem uniqueKey_ofLine?_eq (ends : EndsWord text) :
    UniqueKey.ofLine? (behindKeywords .unique .key text) = UniqueKey.ofNames? mention.names :=
  mention.reads.uniqueKey_ofLine?_eq ends

end Mention

/-! ### Column lines -/

/-- The part of a name in front of its first backtick. -/
def untilBacktick (name : String) : String :=
  String.ofList (name.toList.takeWhile (· != backtick))

theorem bne_of_free {text : List Char} (free : backtick ∉ text) : ∀ c ∈ text, (c != backtick) = true := by
  intro c found
  rw [bne_iff_ne]
  rintro rfl
  exact free found

theorem untilBacktick_eq {name : String} {front more : List Char}
    (whole : name.toList = front ++ backtick :: more) (free : backtick ∉ front) :
    untilBacktick name = String.ofList front := by
  rw [untilBacktick, whole, List.takeWhile_append_of_pos (bne_of_free free),
    List.takeWhile_cons_of_neg (by decide), List.append_nil]

theorem untilBacktick_of_free {name : String} (free : backtick ∉ name.toList) :
    untilBacktick name = name := by
  have whole : (name.toList ++ []).takeWhile (· != backtick) = name.toList ++ [] :=
    List.takeWhile_append_of_pos (bne_of_free free)
  rw [List.append_nil] at whole
  rw [untilBacktick, whole, String.ofList_toList]

theorem untilBacktick_eq_iff {name : String} : untilBacktick name = name ↔ backtick ∉ name.toList := by
  refine ⟨fun same ticked => ?_, untilBacktick_of_free⟩
  obtain ⟨front, more, whole, free⟩ := List.eq_append_cons_of_mem ticked
  rw [untilBacktick_eq whole free] at same
  rw [← same, String.toList_ofList] at ticked
  exact free ticked

/-- **A column line with a name without backticks gives the name and what follows.** -/
theorem ofLine?_writeName_of_free {name : String} (free : backtick ∉ name.toList) (rest : List Char) :
    DeclaredColumn.ofLine? (writeName name ++ rest) =
      some ⟨name, String.ofList (dropFinalComma rest)⟩ := by
  have cut := cutQuotedName?_append (List.not_mem_nil : backtick ∉ []) free rest
  rw [List.nil_append] at cut
  rw [writeName_append, doubleMarks_of_not_mem free, DeclaredColumn.ofLine?, cut, Option.map_some,
    String.ofList_toList]

theorem dropFinalComma_cons {c : Char} (other : c ≠ ',') (rest : List Char) :
    dropFinalComma (c :: rest) = c :: dropFinalComma rest := by
  cases rest with
  | nil => rw [dropFinalComma, if_neg (by simpa using other)]; rfl
  | cons d more =>
    rw [dropFinalComma, dropFinalComma, List.getLast?_cons_cons, List.dropLast_cons_cons]
    split <;> rfl

/-- **A column line cuts a name in front of its first backtick**, and the clause starts with another. -/
theorem ofLine?_writeName_of_ticked {name : String} (ticked : backtick ∈ name.toList)
    (rest : List Char) : ∃ more, DeclaredColumn.ofLine? (writeName name ++ rest) =
      some ⟨untilBacktick name, String.ofList (backtick :: more)⟩ := by
  obtain ⟨front, more, whole, free⟩ := List.eq_append_cons_of_mem ticked
  have cut := cutQuotedName?_append (List.not_mem_nil : backtick ∉ []) free
    (backtick :: (doubleMarks backtick more ++ backtick :: rest))
  rw [List.nil_append] at cut
  refine ⟨dropFinalComma (doubleMarks backtick more ++ backtick :: rest), ?_⟩
  rw [writeName_append, whole, doubleMarks_append, doubleMarks_of_not_mem free, doubleMarks_cons_same,
    List.append_assoc, List.cons_append, List.cons_append, DeclaredColumn.ofLine?, cut,
    Option.map_some, untilBacktick_eq whole free, dropFinalComma_cons (by decide)]

theorem name_ofLine?_writeName (name : String) (rest : List Char) :
    (DeclaredColumn.ofLine? (writeName name ++ rest)).map DeclaredColumn.name =
      some (untilBacktick name) := by
  by_cases ticked : backtick ∈ name.toList
  · obtain ⟨more, found⟩ := ofLine?_writeName_of_ticked ticked rest
    rw [found, Option.map_some]
  · rw [ofLine?_writeName_of_free ticked, Option.map_some, untilBacktick_of_free ticked]

/-- **A column line gives the name as it was meant exactly if it has no backtick.** -/
theorem name_ofLine?_writeName_iff {name : String} {rest : List Char} :
    (DeclaredColumn.ofLine? (writeName name ++ rest)).map DeclaredColumn.name = some name ↔
      backtick ∉ name.toList := by
  rw [name_ofLine?_writeName, Option.some.injEq, untilBacktick_eq_iff]

/-- No column line gives a name with a backtick. -/
theorem free_of_ofLine? {line : List Char} {column : DeclaredColumn}
    (found : DeclaredColumn.ofLine? line = some column) : backtick ∉ column.name.toList := by
  obtain ⟨cut, read, rfl⟩ := Option.map_eq_some_iff.mp found
  rw [String.toList_ofList]
  exact (cutQuotedName?_eq_some_iff.mp read).2.2

/-- A clause that starts with a backtick defines no type. -/
theorem ofClause?_backtick (more : List Char) :
    Declaration.ofClause? (String.ofList (backtick :: more)) = none := by
  rw [Declaration.ofClause?, String.toList_ofList, tokens?_cons, scanToken_backtick, scanName]
  cases scanQuoted backtick false more with
  | none => rfl
  | some read =>
    show ((tokens? read.2).map (Token.quotedName _ :: ·)).bind Declaration.ofTokens? = none
    cases tokens? read.2 <;> rfl

/-! ### Lines of a statement -/

namespace Line

variable {line : Line} {name : String}

theorem primaryKey?_of_mention {text : List Char} (mention : Mention text name) (ends : EndsWord text)
    (spelled : line.text = behindKeywords .primary .key text) :
    line.primaryKey? = some mention.names := by
  have role : line.role = .primaryKey := by rw [Line.role, spelled]; rfl
  rw [primaryKey?, if_pos role, spelled, mention.primaryKeyColumns?_eq ends]

theorem uniqueKey?_of_mention {text : List Char} (mention : Mention text name) (ends : EndsWord text)
    (spelled : line.text = behindKeywords .unique .key text) :
    line.uniqueKey? = UniqueKey.ofNames? mention.names := by
  have role : line.role = .uniqueKey := by rw [Line.role, spelled]; rfl
  rw [uniqueKey?, if_pos role, spelled, mention.uniqueKey_ofLine?_eq ends]

theorem column?_of_writeName {rest : List Char} (spelled : line.text = writeName name ++ rest) :
    line.column? = DeclaredColumn.ofLine? (writeName name ++ rest) := by
  have role : line.role = .column := by rw [Line.role, spelled]; rfl
  rw [column?_eq, if_pos role, spelled]

theorem free_of_column? {column : DeclaredColumn} (found : line.column? = some column) :
    backtick ∉ column.name.toList := by
  rw [column?_eq] at found
  split at found
  · exact free_of_ofLine? found
  · exact nomatch found

end Line

end SchemaDump
