/-
**Key lines are read like a walk over their backticks.**

Key lines are read by tokens, where a quoted name is one token; columns are found by their delimiters,
two backticks to a name. On a line without quotation marks, comments and doubled backticks the two agree:
a key line is malformed exactly if its backticks are odd in number or none, and gives the names of the walk
otherwise.

There is one more way for a backtick to be no delimiter. The mark `@@` takes the character behind it into a
word, whatever it is, so a variable name can take a backtick (`keyLines_ne_walk`). The agreement
holds for the lines where that does not happen.

The proof goes token by token (`namesAgree`): a token that starts at a backtick takes two of
them with a name, or has no end; any other takes none.
-/

import SchemaDump.Proofs.Sql.Backtick
import SchemaDump.Proofs.Statement.Delimiter
import SchemaDump.Proofs.Statement.KeyLine

namespace SchemaDump

open SchemaDump.Text SchemaDump.Sql

/-! ### The walk passes over text without backticks -/

theorem quotedNamesIn_of_skips {text after : List Char} (skips : Skips text after) :
    quotedNamesIn text = quotedNamesIn after := by
  have counted := skips.count_eq
  obtain ⟨passed, rfl, free⟩ := skips
  cases found : cutQuotedName? after with
  | some cut =>
    obtain ⟨whole, freeBefore, freeName⟩ := cutQuotedName?_eq_some_iff.mp found
    rw [whole, ← List.append_assoc, quotedNamesIn_name (by simp [free, freeBefore]) freeName,
      quotedNamesIn_name freeBefore freeName]
  | none =>
    have few := cutQuotedName?_eq_none_iff.mp found
    rw [← counted] at few
    rw [quotedNamesIn_eq, cutQuotedName?_eq_none_iff.mpr few, quotedNamesIn_eq, found]

/-! ### Token by token -/

/-- The quoted names among the tokens are those of the walk, and there are no tokens exactly if a
backtick is left over. -/
def NamesAgree (text : List Char) : Prop :=
  (tokens? text).map quotedNames =
    if text.count backtick % 2 = 1 then none else some (quotedNamesIn text)

/-- A backtick that nothing closes leaves no tokens. -/
theorem namesAgree_unclosed {rest : List Char} (free : backtick ∉ rest) :
    NamesAgree (backtick :: rest) := by
  rw [NamesAgree, tokens?_cons, scanToken_backtick, scanName_eq_none free, List.count_cons_self,
    List.count_eq_zero_of_not_mem free]
  rfl

/-- A quoted name takes its two backticks. -/
theorem namesAgree_name {name after : List Char} (free : backtick ∉ name)
    (stop : after.head? ≠ some backtick) (rest : NamesAgree after) :
    NamesAgree (backtick :: (name ++ backtick :: after)) := by
  have names := quotedNamesIn_name (List.not_mem_nil : backtick ∉ []) free after
  rw [List.nil_append] at names
  have counted : (backtick :: (name ++ backtick :: after)).count backtick =
      after.count backtick + 2 := by
    rw [List.count_cons_self, List.count_append, List.count_eq_zero_of_not_mem free,
      List.count_cons_self]
    omega
  have more : (tokens? (backtick :: (name ++ backtick :: after))).map quotedNames =
      ((tokens? after).map quotedNames).map (String.ofList name :: ·) := by
    rw [tokens?_cons, scanToken_quotedName free stop, Option.bind_some, Option.map_map,
      Option.map_map]
    rfl
  rw [NamesAgree, more, rest, names, counted, Nat.add_mod_right]
  split <;> rfl

/-- Any other token takes none. -/
theorem namesAgree_plain {c : Char} {rest : List Char} {read : Token × List Char}
    (scanned : scanToken c rest = some read) (plain : Plain (c :: rest) read)
    (behind : NamesAgree read.2) : NamesAgree (c :: rest) := by
  have same (tokens : List Token) : quotedNames (read.1 :: tokens) = quotedNames tokens := by
    rw [quotedNames, List.filterMap_cons_none plain.1, quotedNames]
  have more : (tokens? (c :: rest)).map quotedNames = (tokens? read.2).map quotedNames := by
    rw [tokens?_cons, scanned, Option.bind_some, Option.map_map]
    exact congrArg (Option.map · _) (funext same)
  rw [NamesAgree, more, behind, quotedNamesIn_of_skips plain.2, plain.2.count_eq]

/-! ### The whole text -/

/-- No token of the text is a variable name that takes a backtick: wherever the scanner stops, what is
left does not start with `@@` and a backtick. -/
def VariablesTakeNoBacktick (text : List Char) : Prop :=
  ∀ tokens rest, ¬ Reads text tokens ('@' :: '@' :: backtick :: rest)

theorem VariablesTakeNoBacktick.behind {text after : List Char} {tokens : List Token}
    (free : VariablesTakeNoBacktick text) (reads : Reads text tokens after) :
    VariablesTakeNoBacktick after :=
  fun more rest found => free (tokens ++ more) rest (reads.trans found)

/-- Where no `@` stands, no variable takes anything. -/
theorem variablesTakeNoBacktick {text : List Char} (unmarked : ∀ c ∈ text, c ∉ hidingMarks)
    (none : '@' ∉ text) : VariablesTakeNoBacktick text := by
  intro tokens rest reads
  have suffix : '@' :: '@' :: backtick :: rest <:+ text := by
    generalize '@' :: '@' :: backtick :: rest = left at reads
    induction reads with
    | done => exact List.suffix_rfl
    | @next c more after left token _ scanned _ ih =>
      have behind : after <:+ c :: more := by
        by_cases tick : c = backtick
        · rw [tick, scanToken_backtick] at scanned
          exact (suffix_scanName scanned).trans (List.suffix_cons c more)
        · have start : ∀ rest, c :: more ≠ '@' :: '@' :: backtick :: rest := by
            rintro rest same
            exact none (same ▸ List.mem_cons_self)
          obtain ⟨read, same, plain⟩ := scanToken_plain unmarked tick start
          obtain rfl := Option.some.inj (scanned.symm.trans same)
          exact plain.2.suffix
      exact (ih (fun d found => unmarked d (behind.mem found))
        (fun found => none (behind.mem found))).trans behind
  exact none (suffix.mem List.mem_cons_self)

/-- **Tokens and walk agree on every text in which a backtick is a delimiter.** -/
theorem namesAgree {text : List Char} (unmarked : ∀ c ∈ text, c ∉ hidingMarks)
    (apart : ¬ [backtick, backtick] <:+: text) (free : VariablesTakeNoBacktick text) :
    NamesAgree text := by
  induction size : text.length using Nat.strongRecOn generalizing text with
  | ind _ ih =>
    -- The three conditions hold of what is left behind the first token, which is shorter.
    have later {after : List Char} {tokens : List Token} (reads : Reads text tokens after)
        (suffix : after <:+ text) (shorter : after.length < text.length) : NamesAgree after :=
      ih after.length (by omega) (fun d found => unmarked d (suffix.mem found))
        (fun inside => apart (inside.trans suffix.isInfix)) (free.behind reads) rfl
    cases text with
    | nil => rw [NamesAgree, tokens?_nil, quotedNamesIn_eq]; rfl
    | cons c rest =>
      by_cases tick : c = backtick
      · subst tick
        cases closed : cutDelimiter? rest with
        | none => exact namesAgree_unclosed (cutDelimiter?_eq_none_iff.mp closed)
        | some pair =>
          obtain ⟨name, after⟩ := pair
          obtain ⟨rfl, freeName⟩ := cutDelimiter?_eq_some_iff.mp closed
          have stop : after.head? ≠ some backtick := by
            intro doubled
            obtain ⟨more, rfl⟩ := List.head?_eq_some_iff.mp doubled
            exact apart ⟨backtick :: name, more, by simp⟩
          refine namesAgree_name freeName stop
            (later (.single (scanToken_quotedName freeName stop)) ?_ ?_)
          · exact ⟨backtick :: (name ++ [backtick]), by simp⟩
          · simp
            omega
      · have start : ∀ more, c :: rest ≠ '@' :: '@' :: backtick :: more := by
          rintro more same
          exact free [] more (same ▸ .done _)
        obtain ⟨read, scanned, plain⟩ := scanToken_plain unmarked tick start
        refine namesAgree_plain scanned plain (later (.single scanned) plain.2.suffix ?_)
        exact Nat.lt_succ_of_le (length_scanToken_le scanned)

/-! ### Key lines -/

/-- The line starts with the keywords, and a blank, a parenthesis, a backtick or nothing follows. -/
def StartsWithKeywords (keywords : String) (line : List Char) : Prop :=
  ∃ tail, line = keywords.toList ++ tail ∧
    (tail = [] ∨ ∃ c rest, tail = c :: rest ∧ c ∈ [' ', '\t', '(', backtick])

theorem map_quotedNames_tokensBehind? (first second : Keyword) {line : List Char}
    (starts : StartsWithKeywords (first.spelling ++ " " ++ second.spelling) line)
    (unmarked : ∀ c ∈ line, c ∉ hidingMarks) (apart : ¬ [backtick, backtick] <:+: line)
    (free : VariablesTakeNoBacktick line) :
    (tokensBehind? first second line).map quotedNames =
      if line.count backtick % 2 = 1 then none else some (quotedNamesIn line) := by
  obtain ⟨tail, rfl, follows⟩ := starts
  have ends : EndsWord tail := by
    rcases follows with rfl | ⟨c, rest, rfl, stops⟩
    · exact endsWord_nil
    · exact endsWord_cons (List.subset_def.mp (by decide) stops) rest
  have cut : (first.spelling ++ " " ++ second.spelling).toList ++ tail =
      behindKeywords first second tail := by
    simp [behindKeywords]
  rw [cut] at unmarked apart free ⊢
  have skips : Skips (behindKeywords first second tail) tail := by
    refine ⟨first.spelling.toList ++ ' ' :: second.spelling.toList, by simp [behindKeywords], ?_⟩
    cases first <;> cases second <;> decide
  have agree : NamesAgree tail := namesAgree
    (fun d found => unmarked d (skips.suffix.mem found))
    (fun inside => apart (inside.trans skips.suffix.isInfix))
    (free.behind (reads_keywords first second ends))
  rw [tokensBehind?_keywords first second ends, agree, skips.count_eq, quotedNamesIn_of_skips skips]

/-- The names of a unique key line: its own first, then its columns. -/
def UniqueKey.names (key : UniqueKey) : List String := key.name :: key.columns

theorem UniqueKey.map_names_ofNames? (names : List String) :
    (UniqueKey.ofNames? names).map UniqueKey.names = if names.isEmpty then none else some names := by
  cases names <;> rfl

/-- A key line needs a name, and the walk gives one exactly if there are two backticks. -/
theorem bind_names_eq (line : List Char) :
    ((if line.count backtick % 2 = 1 then none else some (quotedNamesIn line)).bind
        fun names => if names.isEmpty then none else some names) =
      if line.count backtick % 2 = 1 ∨ line.count backtick = 0 then none
      else some (quotedNamesIn line) := by
  have size := length_quotedNamesIn line
  by_cases odd : line.count backtick % 2 = 1
  · rw [if_pos odd, if_pos (.inl odd), Option.bind_none]
  · rw [if_neg odd, Option.bind_some]
    by_cases zero : line.count backtick = 0
    · have missing : quotedNamesIn line = [] := List.length_eq_zero_iff.mp (by omega)
      rw [if_pos (Or.inr zero), missing]
      rfl
    · have found : (quotedNamesIn line).isEmpty = false := by
        rw [← Bool.not_eq_true, List.isEmpty_iff_length_eq_zero]
        omega
      rw [if_neg (not_or.mpr ⟨odd, zero⟩), found]
      rfl

/-- **Key lines give the names of the walk, and are malformed exactly if the walk has a backtick left
over or none to start with.** -/
theorem keyLines_eq_walk (line : List Char) (unmarked : ∀ c ∈ line, c ∉ hidingMarks)
    (apart : ¬ [backtick, backtick] <:+: line) (free : VariablesTakeNoBacktick line) :
    (StartsWithKeywords "PRIMARY KEY" line →
      primaryKeyColumns? line =
        if line.count backtick % 2 = 1 ∨ line.count backtick = 0 then none
        else some (quotedNamesFrom (String.ofList line) 0)) ∧
    (StartsWithKeywords "UNIQUE KEY" line →
      (UniqueKey.ofLine? line).map UniqueKey.names =
        if line.count backtick % 2 = 1 ∨ line.count backtick = 0 then none
        else some (quotedNamesFrom (String.ofList line) 0)) := by
  rw [quotedNamesFrom_zero]
  constructor
  · intro starts
    rw [primaryKeyColumns?_eq, map_quotedNames_tokensBehind? .primary .key starts unmarked apart free]
    exact bind_names_eq line
  · intro starts
    rw [UniqueKey.ofLine?_eq, map_quotedNames_tokensBehind? .unique .key starts unmarked apart free,
      Option.map_bind]
    rw [← bind_names_eq line]
    exact congrArg _ (funext UniqueKey.map_names_ofNames?)

theorem keyLines_eq_walk_two_columns :
    primaryKeyColumns? "PRIMARY KEY (`a`,`b`)".toList = some ["a", "b"] := by
  have walk : quotedNamesFrom (String.ofList "PRIMARY KEY (`a`,`b`)".toList) 0 = ["a", "b"] := by
    rw [quotedNamesFrom_zero]
    cbv
  have apart : ¬ [backtick, backtick] <:+: "PRIMARY KEY (`a`,`b`)".toList := by
    simp [List.infix_cons_iff, backtick]
  have unmarked : ∀ c ∈ "PRIMARY KEY (`a`,`b`)".toList, c ∉ hidingMarks :=
    List.all_iff_forall_prop.mp (by decide)
  have read := (keyLines_eq_walk "PRIMARY KEY (`a`,`b`)".toList unmarked apart
    (variablesTakeNoBacktick unmarked (by decide))).1
    ⟨" (`a`,`b`)".toList, by decide, .inr ⟨' ', _, rfl, by decide⟩⟩
  rw [walk] at read
  exact read

/-! ### A variable that takes a backtick -/

theorem reads_variable :
    Reads " (@@`a`)".toList [.blank " ", .leftParen, .word "@@`a"] "`)".toList :=
  .next (scanToken_space _) (.next (scanToken_loneMark (by decide) _) (.single (by decide +kernel)))

theorem primaryKeyColumns?_variable : primaryKeyColumns? "PRIMARY KEY (@@`a`)".toList = none := by
  have front : tokensBehind? .primary .key "PRIMARY KEY (@@`a`)".toList = tokens? " (@@`a`)".toList :=
    tokensBehind?_keywords .primary .key (endsWord_cons (by decide) _)
  have unclosed : tokens? "`)".toList = none := by
    show tokens? [backtick, ')'] = none
    rw [tokens?_cons, scanToken_backtick, scanName_eq_none (by decide)]
    rfl
  rw [primaryKeyColumns?, front, reads_variable.tokens?_eq, unclosed]
  rfl

/-- **Without the condition on variables they differ**: a line with two backticks and no name. -/
theorem keyLines_ne_walk :
    ¬ ∀ line : List Char, (∀ c ∈ line, c ∉ hidingMarks) → ¬ [backtick, backtick] <:+: line →
      (StartsWithKeywords "PRIMARY KEY" line →
        primaryKeyColumns? line =
          if line.count backtick % 2 = 1 ∨ line.count backtick = 0 then none
          else some (quotedNamesFrom (String.ofList line) 0)) ∧
      (StartsWithKeywords "UNIQUE KEY" line →
        (UniqueKey.ofLine? line).map UniqueKey.names =
          if line.count backtick % 2 = 1 ∨ line.count backtick = 0 then none
          else some (quotedNamesFrom (String.ofList line) 0)) := by
  intro always
  have apart : ¬ [backtick, backtick] <:+: "PRIMARY KEY (@@`a`)".toList := by
    simp [List.infix_cons_iff, backtick]
  have unmarked : ∀ c ∈ "PRIMARY KEY (@@`a`)".toList, c ∉ hidingMarks :=
    List.all_iff_forall_prop.mp (by decide)
  have read := (always "PRIMARY KEY (@@`a`)".toList unmarked apart).1
    ⟨" (@@`a`)".toList, by decide, .inr ⟨' ', _, rfl, by decide⟩⟩
  rw [primaryKeyColumns?_variable, if_neg (by decide)] at read
  exact Option.some_ne_none _ read.symm

end SchemaDump
