/-
**Reading one line of the body of a statement.**

* `ReadsNames`: the scanner comes by these quoted names and no others; `readsNames_group` for the lists
  of names in key lines.
* `primaryKeyColumns?_text`, `uniqueKey_ofLine?_text`, `declaredColumn_ofLine?_text`: what each line gives,
  with its comma or without.
* **`BodyLine.readAs_line`**: a line says what the body line says that it was written from, and nothing else.
-/

import SchemaDump.Proofs.Statement.Accounting
import SchemaDump.Proofs.Statement.Delimiter
import SchemaDump.Proofs.Statement.KeyLine
import SchemaDump.Proofs.Statement.Layout

namespace SchemaDump

open SchemaDump.Text SchemaDump.Sql

/-! ### Names among the tokens -/

theorem reads_quoteName {name : String} (free : backtick ∉ name.toList) {after : List Char}
    (stop : after.head? ≠ some backtick) : Reads (quoteName name ++ after) [.quotedName name] after := by
  have read := scanToken_quotedName free stop
  rw [String.ofList_toList] at read
  rw [quoteName, List.cons_append, List.append_assoc]
  exact .single read

/-- The scanner comes by these quoted names, and no others, to the place where the rest is left. -/
def ReadsNames (text : List Char) (names : List String) (rest : List Char) : Prop :=
  ∃ tokens, Reads text tokens rest ∧ quotedNames tokens = names

namespace ReadsNames

variable {text middle rest : List Char} {names more : List String}

theorem refl (text : List Char) : ReadsNames text [] text := ⟨[], .done text, rfl⟩

theorem trans (first : ReadsNames text names middle) (second : ReadsNames middle more rest) :
    ReadsNames text (names ++ more) rest := by
  obtain ⟨tokens, reads, rfl⟩ := first
  obtain ⟨later, readsLater, rfl⟩ := second
  exact ⟨tokens ++ later, reads.trans readsLater, List.filterMap_append⟩

/-- A token that quotes no name. -/
theorem skip {c : Char} {after : List Char} {token : Token}
    (read : scanToken c text = some (token, after)) (unquoted : token.quotedName? = none)
    (behind : ReadsNames after names rest) : ReadsNames (c :: text) names rest := by
  obtain ⟨tokens, reads, rfl⟩ := behind
  exact ⟨token :: tokens, .next read reads, List.filterMap_cons_none unquoted⟩

theorem space (behind : ReadsNames text names rest) : ReadsNames (' ' :: text) names rest :=
  .skip (scanToken_space text) rfl behind

theorem loneMark {c : Char} (lone : c ∈ loneMarks) (behind : ReadsNames text names rest) :
    ReadsNames (c :: text) names rest :=
  .skip (scanToken_loneMark lone text) (quotedName?_markToken c) behind

theorem quoteName {name : String} (free : backtick ∉ name.toList)
    (stop : rest.head? ≠ some backtick) : ReadsNames (quoteName name ++ rest) [name] rest :=
  ⟨[.quotedName name], reads_quoteName free stop, rfl⟩

/-- **The names of a list are read item by item.** -/
theorem commaList {α : Type} {text : α → List Char} {name : α → String} (items : List α)
    (each : ∀ item ∈ items, ∀ {more}, BehindItem more → ReadsNames (text item ++ more) [name item] more)
    (ends : BehindItem rest) :
    ReadsNames (Sql.commaList (items.map text) ++ rest) (items.map name) rest := by
  match items with
  | [] => exact .refl rest
  | [item] => exact each item List.mem_cons_self ends
  | item :: next :: others =>
    have later := commaList (next :: others)
      (fun other found => each other (List.mem_cons_of_mem item found)) ends
    have comma : BehindItem (',' :: (Sql.commaList ((next :: others).map text) ++ rest)) :=
      ⟨',', _, rfl, by decide⟩
    show ReadsNames (text item ++ ',' :: Sql.commaList ((next :: others).map text) ++ rest)
      ([name item] ++ (next :: others).map name) rest
    rw [List.append_assoc, List.cons_append]
    exact (each item List.mem_cons_self comma).trans (.loneMark (by decide) later)

/-- The names of a list are read in order. -/
theorem quoteNames {names : List String} (free : ∀ name ∈ names, backtick ∉ name.toList)
    (ends : BehindItem rest) : ReadsNames (quoteNames names ++ rest) names rest := by
  have list : ReadsNames (Sql.commaList (names.map SchemaDump.quoteName) ++ rest) (names.map id) rest :=
    .commaList names (fun name listed _ behind => .quoteName (free name listed) behind.head?_ne) ends
  rwa [List.map_id] at list

theorem map_quotedNames (reads : ReadsNames text names []) :
    (tokens? text).map quotedNames = some names := by
  obtain ⟨tokens, reads, rfl⟩ := reads
  rw [tokens?_eq_some_iff.mpr reads, Option.map_some]

end ReadsNames

/-- The comma behind a line quotes no name. -/
theorem readsNames_comma (last : Bool) : ReadsNames (BodyLine.comma last) [] [] := by
  cases last with
  | true => exact .refl []
  | false => exact .loneMark (by decide) (.refl [])

theorem readsNames_group {names : List String} (quotable : ∀ name ∈ names, Quotable name) (last : Bool) :
    ReadsNames (" (".toList ++ quoteNames names ++ [')'] ++ BodyLine.comma last) names [] := by
  have ends : BehindItem (')' :: BodyLine.comma last) := ⟨')', _, rfl, by decide⟩
  have list := ReadsNames.quoteNames (fun name found => (quotable name found).1) ends
  have whole := list.trans (.loneMark (by decide) (readsNames_comma last))
  rw [List.append_nil] at whole
  rw [List.append_assoc, List.append_assoc, List.singleton_append]
  exact .space (.loneMark (by decide) whole)

/-! ### Key lines -/

/-- A primary key line gives the names behind its keywords, if there are any. -/
theorem ReadsNames.primaryKeyColumns?_eq {text : List Char} {names : List String}
    (reads : ReadsNames text names []) (ends : EndsWord text) (any : names ≠ []) :
    primaryKeyColumns? (behindKeywords .primary .key text) = some names := by
  rw [SchemaDump.primaryKeyColumns?_eq, tokensBehind?_keywords _ _ ends, reads.map_quotedNames,
    Option.bind_some, if_neg (by rwa [List.isEmpty_iff])]

/-- A unique key line gives the names behind its keywords, the first as its own. -/
theorem ReadsNames.uniqueKey_ofLine?_eq {text : List Char} {names : List String}
    (reads : ReadsNames text names []) (ends : EndsWord text) :
    UniqueKey.ofLine? (behindKeywords .unique .key text) = UniqueKey.ofNames? names := by
  rw [UniqueKey.ofLine?_eq, tokensBehind?_keywords _ _ ends, reads.map_quotedNames, Option.bind_some]

theorem primaryKeyColumns?_text {members : List String} (any : members ≠ [])
    (quotable : ∀ name ∈ members, Quotable name) (last : Bool) :
    primaryKeyColumns? ((BodyLine.primaryKey members).text ++ BodyLine.comma last) = some members := by
  have reads := readsNames_group quotable last
  rw [BodyLine.text, List.append_assoc]
  exact reads.primaryKeyColumns?_eq (endsWord_cons (by decide) _) any

theorem uniqueKey_ofLine?_text {key : UniqueKey} (quotable : Quotable key.name)
    (members : ∀ name ∈ key.columns, Quotable name) (last : Bool) :
    UniqueKey.ofLine? ((BodyLine.uniqueKey key).text ++ BodyLine.comma last) = some key := by
  have spelled : (BodyLine.uniqueKey key).text ++ BodyLine.comma last =
      behindKeywords .unique .key (' ' :: (quoteName key.name ++
        (" (".toList ++ quoteNames key.columns ++ [')'] ++ BodyLine.comma last))) := by
    rw [BodyLine.text, List.append_assoc, BodyLine.rest]
    simp only [List.cons_append, List.append_assoc]
    rfl
  have stop : (" (".toList ++ quoteNames key.columns ++ [')'] ++ BodyLine.comma last).head? ≠
      some backtick := by
    show some ' ' ≠ some backtick
    decide
  have names := (ReadsNames.quoteName quotable.1 stop).trans (readsNames_group members last)
  rw [spelled, names.space.uniqueKey_ofLine?_eq (endsWord_cons (by decide) _)]
  rfl

/-! ### Column lines -/

theorem dropFinalComma_clause {clause : String} (whole : IsClause clause) (last : Bool) :
    dropFinalComma (clause.toList ++ BodyLine.comma last) = clause.toList := by
  cases last with
  | true =>
    rw [BodyLine.comma, List.append_nil, dropFinalComma, if_neg]
    intro comma
    exact (whole.2 ',' comma).2 rfl
  | false =>
    rw [BodyLine.comma, dropFinalComma, if_pos (List.getLast?_concat), List.dropLast_concat]

theorem declaredColumn_ofLine?_text {column : DeclaredColumn} (quotable : Quotable column.name)
    (whole : IsClause column.clause) (last : Bool) :
    DeclaredColumn.ofLine? ((BodyLine.column column).text ++ BodyLine.comma last) = some column := by
  have cut := cutQuotedName?_append (List.not_mem_nil : backtick ∉ []) quotable.1
    (column.clause.toList ++ BodyLine.comma last)
  have line : (BodyLine.column column).text ++ BodyLine.comma last =
      [] ++ backtick :: (column.name.toList ++
        backtick :: (column.clause.toList ++ BodyLine.comma last)) := by
    show backtick :: (column.name.toList ++ backtick :: column.clause.toList) ++ BodyLine.comma last = _
    simp
  rw [DeclaredColumn.ofLine?, line, cut, Option.map_some, dropFinalComma_clause whole,
    String.ofList_toList, String.ofList_toList]

/-! ### One body line -/

namespace BodyLine

/-- The role that the opening gives a line. -/
def role : BodyLine → LineRole
  | .column _ => .column
  | .primaryKey _ => .primaryKey
  | .uniqueKey _ => .uniqueKey
  | .plain _ _ => .other

theorem role_of_opening (line : BodyLine) (more : List Char) :
    LineRole.of (line.opening ++ more) = line.role := by
  match line with
  | .column _ => rfl
  | .primaryKey _ => rfl
  | .uniqueKey _ => rfl
  | .plain .key _ => rfl
  | .plain .constraint _ => rfl
  | .plain .fulltextKey _ => rfl

/-- The line says what the body line should, and nothing else. -/
structure ReadAs (body : BodyLine) (line : Line) : Prop where
  headName : line.headName? = none
  column : line.column? = body.column?
  primaryKey : line.primaryKey? = body.primaryKey?
  uniqueKey : line.uniqueKey? = body.uniqueKey?
  sound : line.isMalformed = false

/-- Trimming a body line keeps its opening, and takes blanks behind it at most from its end. -/
theorem trim_line {before after : List Char} (blankBefore : ∀ c ∈ before, isBlank c = true)
    (blankAfter : ∀ c ∈ after, isBlank c = true) (line : BodyLine) (last : Bool) :
    trim (before ++ (line.text ++ comma last ++ after)) =
      line.opening ++ trimEnd (line.rest ++ comma last) := by
  have visible : ∀ words ∈ openings,
      (words.head?.any fun c => !isBlank c) ∧ words.getLast?.any fun c => !isBlank c := by decide
  obtain ⟨atFront, atEnd⟩ := visible _ line.mem_openings
  obtain ⟨c, first, visibleFirst⟩ := (Option.any_eq_true _ _).mp atFront
  obtain ⟨d, final, visibleFinal⟩ := (Option.any_eq_true _ _).mp atEnd
  obtain ⟨more, starts⟩ := List.head?_eq_some_iff.mp first
  obtain ⟨front, ends⟩ := List.getLast?_eq_some_iff.mp final
  have whole : line.text ++ comma last = c :: (more ++ (line.rest ++ comma last)) := by
    rw [text, starts, List.append_assoc, List.cons_append]
  rw [whole, trim_margins blankBefore blankAfter (by simpa using visibleFirst), ← List.cons_append,
    ← starts, ends, List.append_assoc, List.singleton_append,
    trimEnd_append_cons front (by simpa using visibleFinal), List.append_assoc, List.singleton_append]

theorem trimEnd_rest {line : BodyLine} (wellFormed : line.WellFormed) (read : line.role ≠ .other)
    (last : Bool) : trimEnd (line.rest ++ comma last) = line.rest ++ comma last := by
  refine trimEnd_of_visible fun c found => ?_
  cases last with
  | false =>
    rw [comma, List.getLast?_concat, Option.mem_some] at found
    obtain rfl := found
    decide
  | true =>
    rw [comma, List.append_nil] at found
    cases line with
    | column declared =>
      rw [rest, List.getLast?_append, List.getLast?_cons, Option.some_or, Option.mem_some] at found
      cases final : declared.clause.toList.getLast? with
      | none =>
        rw [final, Option.getD_none] at found
        obtain rfl := found
        decide
      | some d =>
        rw [final, Option.getD_some] at found
        obtain rfl := found
        exact (wellFormed.2.2 d final).1
    | primaryKey members =>
      rw [rest, List.getLast?_concat, Option.mem_some] at found
      obtain rfl := found
      decide
    | uniqueKey key =>
      rw [rest, List.getLast?_concat, Option.mem_some] at found
      obtain rfl := found
      decide
    | plain words more => exact absurd rfl read

/-- **A well-formed body line is read as what it says.** -/
theorem readAs_line {body : BodyLine} (wellFormed : body.WellFormed) (last : Bool) (number : Nat) :
    body.ReadAs ⟨number, body.opening ++ trimEnd (body.rest ++ comma last)⟩ := by
  have role : Line.role ⟨number, body.opening ++ trimEnd (body.rest ++ comma last)⟩ = body.role :=
    role_of_opening body _
  have whole (read : body.role ≠ .other) :
      body.opening ++ trimEnd (body.rest ++ comma last) = body.text ++ comma last := by
    rw [trimEnd_rest wellFormed read, text, List.append_assoc]
  refine ⟨Line.headName?_eq_none ?_, ?_, ?_, ?_, ?_⟩
  · rw [role]
    cases body <;> exact LineRole.noConfusion
  · rw [Line.column?_eq, role]
    cases body with
    | column declared =>
      show DeclaredColumn.ofLine? _ = some declared
      rw [whole LineRole.noConfusion, declaredColumn_ofLine?_text wellFormed.1 wellFormed.2]
    | _ => rfl
  · rw [Line.primaryKey?, role]
    cases body with
    | primaryKey members =>
      show primaryKeyColumns? _ = some members
      rw [whole LineRole.noConfusion, primaryKeyColumns?_text wellFormed.1 wellFormed.2]
    | _ => rfl
  · rw [Line.uniqueKey?, role]
    cases body with
    | uniqueKey key =>
      show UniqueKey.ofLine? _ = some key
      rw [whole LineRole.noConfusion, uniqueKey_ofLine?_text wellFormed.1 wellFormed.2]
    | _ => rfl
  · rw [Line.isMalformed, role]
    cases body with
    | primaryKey members =>
      show ((primaryKeyColumns? _).isNone || false) = false
      rw [whole LineRole.noConfusion, primaryKeyColumns?_text wellFormed.1 wellFormed.2]
      rfl
    | uniqueKey key =>
      show (UniqueKey.ofLine? _).isNone = false
      rw [whole LineRole.noConfusion, uniqueKey_ofLine?_text wellFormed.1 wellFormed.2]
      rfl
    | _ => rfl

end BodyLine

end SchemaDump
