/-
**Key lines with all that a server writes on them.**

A member of a key is a name between backticks, perhaps with the length of the prefix that counts and a
direction behind it. Behind the members stand the options of the key, one of them a comment of any
content, and the comma of the line. All of these are tokens that quote no name: a comment is one literal,
whatever is in it, and a length or a keyword has no backticks.

* `KeyPart.readsNames`: the scanner comes by the name of a member and by nothing else;
* `KeyOption.readsNames`: it comes by no name in an option;
* **`keyLines_written`**: so key lines give the names of their members, in order.
-/

import SchemaDump.Proofs.Sql.Values
import SchemaDump.Proofs.Statement.WrittenName

namespace SchemaDump

open SchemaDump.Text SchemaDump.Sql

/-! ### Members -/

/-- The direction in which a key sorts a column. -/
inductive SortOrder where
  | ascending
  | descending
  deriving DecidableEq, Repr

def SortOrder.spelling : SortOrder → String
  | .ascending => "ASC"
  | .descending => "DESC"

/-- A member of a key: a column, perhaps with the length of the prefix that counts and a direction. -/
structure KeyPart where
  name : String
  length : Option Numeral := none
  order : Option SortOrder := none
  deriving DecidableEq

namespace KeyPart

/-- The length between parentheses, directly behind the name, if there is one. -/
def lengthText (part : KeyPart) : List Char := part.length.elim [] fun length => argumentList [length]

/-- The direction, set off by a space, if there is one. -/
def orderText (part : KeyPart) : List Char := part.order.elim [] fun order => ' ' :: order.spelling.toList

def text (part : KeyPart) : List Char := writeName part.name ++ part.lengthText ++ part.orderText

end KeyPart

/-! ### Options -/

/-- An option of a key, written behind its members. -/
inductive KeyOption where
  | usingBtree
  | comment (content : String)
  deriving DecidableEq, Repr

def KeyOption.text : KeyOption → List Char
  | .usingBtree => ' ' :: ("USING".toList ++ ' ' :: "BTREE".toList)
  | .comment content => ' ' :: ("COMMENT".toList ++ ' ' :: quoteString content)

/-- The members between parentheses, then the options, then a comma if the line is not the last. -/
def writeMembers (parts : List KeyPart) (options : List KeyOption) (last : Bool) : List Char :=
  " (".toList ++ (commaList (parts.map KeyPart.text) ++
    ')' :: (options.flatMap KeyOption.text ++ BodyLine.comma last))

/-! ### Reading -/

/-- Nothing follows, or what may follow an option: a space or a comma. -/
def BehindOption (text : List Char) : Prop := ∀ c ∈ text.head?, c ∈ [' ', ',']

namespace BehindOption

variable {text : List Char}

theorem endsWord (behind : BehindOption text) : EndsWord text := by
  have each : ∀ d ∈ [' ', ','], d ∈ [' ', '\t', '(', ')', ',', backtick] :=
    List.all_iff_forall_prop.mp (by decide)
  cases text with
  | nil => exact endsWord_nil
  | cons c rest => exact endsWord_cons (each c (behind c rfl)) rest

theorem head?_ne (behind : BehindOption text) : text.head? ≠ some apostrophe := by
  intro same
  exact absurd (behind apostrophe same) (by decide)

end BehindOption

/-- The words on a key line that are no names. -/
def keyWords : List String := ["ASC", "DESC", "USING", "BTREE", "COMMENT"]

namespace ReadsNames

variable {text rest : List Char} {names : List String}

/-- A word quotes no name. -/
theorem keyWord (word : String) (listed : word ∈ keyWords) (ends : EndsWord text)
    (behind : ReadsNames text names rest) : ReadsNames (word.toList ++ text) names rest := by
  have each : ∀ spelled ∈ keyWords, IsWord spelled.toList := by decide +kernel
  exact .trans ⟨_, reads_word (each word listed) ends, rfl⟩ behind

/-- A comment quotes no name, whatever it says. -/
theorem quoteString (content : String) (stop : text.head? ≠ some apostrophe)
    (behind : ReadsNames text names rest) :
    ReadsNames (Sql.quoteString content ++ text) names rest := by
  rw [Sql.quoteString, List.cons_append, List.append_assoc, List.singleton_append]
  exact .skip (scanToken_quoteString content stop) rfl behind

end ReadsNames

namespace KeyPart

variable (part : KeyPart)

theorem readsNames_orderText {rest : List Char} (behind : BehindItem rest) :
    ReadsNames (part.orderText ++ rest) [] rest := by
  unfold orderText
  cases part.order with
  | none => exact .refl rest
  | some order =>
    have listed : order.spelling ∈ keyWords := by cases order <;> decide
    exact .space (.keyWord _ listed behind.endsWord (.refl rest))

theorem readsNames_lengthText {text rest : List Char} (behind : ReadsNames text [] rest) :
    ReadsNames (part.lengthText ++ text) [] rest := by
  unfold lengthText
  cases part.length with
  | none => exact behind
  | some length => exact .trans ⟨_, reads_argumentList [length] text, rfl⟩ behind

/-- Nothing behind the name of a member carries the name on. -/
theorem head?_ne {rest : List Char} (behind : BehindItem rest) :
    (part.lengthText ++ (part.orderText ++ rest)).head? ≠ some backtick := by
  unfold lengthText orderText
  cases part.length with
  | some length => exact fun same => absurd (Option.some.inj same) (by decide)
  | none =>
    cases part.order with
    | some order => exact fun same => absurd (Option.some.inj same) (by decide)
    | none => exact behind.head?_ne

/-- **Of a member, the scanner comes by its name and by nothing else.** -/
theorem readsNames {rest : List Char} (behind : BehindItem rest) :
    ReadsNames (part.text ++ rest) [part.name] rest := by
  rw [text, List.append_assoc, List.append_assoc]
  exact (ReadsNames.writeName part.name (part.head?_ne behind)).trans
    (part.readsNames_lengthText (part.readsNames_orderText behind))

end KeyPart

namespace KeyOption

theorem behindOption_texts (options : List KeyOption) (last : Bool) :
    BehindOption (options.flatMap text ++ BodyLine.comma last) := by
  intro c found
  cases options with
  | cons option others => cases option <;> exact Option.some.inj found ▸ List.mem_cons_self
  | nil =>
    cases last with
    | true => exact absurd found (Option.not_mem_none c)
    | false => exact Option.some.inj found ▸ List.mem_cons_of_mem ' ' List.mem_cons_self

/-- **The scanner comes by no name in an option.** -/
theorem readsNames (option : KeyOption) {rest : List Char} (behind : BehindOption rest) :
    ReadsNames (option.text ++ rest) [] rest := by
  cases option with
  | usingBtree =>
    have space : EndsWord (' ' :: ("BTREE".toList ++ rest)) := endsWord_cons (by decide) _
    exact .space (.keyWord "USING" (by decide) space
      (.space (.keyWord "BTREE" (by decide) behind.endsWord (.refl rest))))
  | comment content =>
    have space : EndsWord (' ' :: (quoteString content ++ rest)) := endsWord_cons (by decide) _
    exact .space (.keyWord "COMMENT" (by decide) space
      (.space (.quoteString content behind.head?_ne (.refl rest))))

theorem readsNames_texts (options : List KeyOption) (last : Bool) :
    ReadsNames (options.flatMap text ++ BodyLine.comma last) [] [] := by
  induction options with
  | nil => exact readsNames_comma last
  | cons option others ih =>
    rw [List.flatMap_cons, List.append_assoc]
    exact (option.readsNames (behindOption_texts others last)).trans ih

end KeyOption

theorem readsNames_writeMembers (parts : List KeyPart) (options : List KeyOption) (last : Bool) :
    ReadsNames (writeMembers parts options last) (parts.map KeyPart.name) [] := by
  have ends : BehindItem (')' :: (options.flatMap KeyOption.text ++ BodyLine.comma last)) :=
    ⟨')', _, rfl, by decide⟩
  have list := ReadsNames.commaList parts (fun part _ _ behind => part.readsNames behind) ends
  have whole := list.trans (.loneMark (by decide) (KeyOption.readsNames_texts options last))
  rw [List.append_nil] at whole
  exact .space (.loneMark (by decide) whole)

/-! ### Key lines -/

/-- **Key lines give the names of their members, whatever else is written on them.** A primary key line
gives them in order, and a unique key line gives its own name and then them; a prefix length, a
direction, an option, a comment of any content and a comma at the end change nothing. -/
theorem keyLines_written {parts : List KeyPart} (any : parts ≠ []) (options : List KeyOption)
    (last : Bool) (index : String) :
    primaryKeyColumns? (behindKeywords .primary .key (writeMembers parts options last)) =
      some (parts.map KeyPart.name) ∧
    UniqueKey.ofLine?
        (behindKeywords .unique .key (' ' :: (writeName index ++ writeMembers parts options last))) =
      some ⟨index, parts.map KeyPart.name⟩ := by
  have members := readsNames_writeMembers parts options last
  have spaced : ∀ text, EndsWord (' ' :: text) := endsWord_cons (by decide)
  constructor
  · exact members.primaryKeyColumns?_eq (spaced _) (by simpa using any)
  · have stop : (writeMembers parts options last).head? ≠ some backtick := by
      show some ' ' ≠ some backtick
      decide
    have names := (ReadsNames.writeName index stop).trans members
    rw [names.space.uniqueKey_ofLine?_eq (spaced _)]
    rfl

theorem isDigit_of_mem_ten : ∀ c ∈ ['1', '0'], c.isDigit = true :=
  List.all_iff_forall_prop.mp (by decide)

/-- Two members, one of them with a backtick in its name, a length and a direction. -/
def noteKeyParts : List KeyPart :=
  [{ name := "a`b"
     length := some ⟨'1', ['0'], isDigit_of_mem_ten⟩
     order := some .descending },
   { name := "it's, (x)" }]

theorem keyLines_written_noteKeyParts :
    primaryKeyColumns?
        "PRIMARY KEY (`a``b`(10) DESC,`it's, (x)`) USING BTREE COMMENT '`c` \\\\ it''s',".toList =
      some ["a`b", "it's, (x)"] ∧
    UniqueKey.ofLine?
        "UNIQUE KEY `u``q` (`a``b`(10) DESC,`it's, (x)`) USING BTREE COMMENT '`c` \\\\ it''s',".toList =
      some ⟨"u`q", ["a`b", "it's, (x)"]⟩ := by
  have any : noteKeyParts ≠ [] := by decide
  have read := keyLines_written any [.usingBtree, .comment "`c` \\ it's"] false "u`q"
  have primary : behindKeywords .primary .key
      (writeMembers noteKeyParts [.usingBtree, .comment "`c` \\ it's"] false) =
      "PRIMARY KEY (`a``b`(10) DESC,`it's, (x)`) USING BTREE COMMENT '`c` \\\\ it''s',".toList := by
    decide +kernel
  have unique : behindKeywords .unique .key
      (' ' :: (writeName "u`q" ++
        writeMembers noteKeyParts [.usingBtree, .comment "`c` \\ it's"] false)) =
      "UNIQUE KEY `u``q` (`a``b`(10) DESC,`it's, (x)`) USING BTREE COMMENT '`c` \\\\ it''s',".toList := by
    decide +kernel
  rwa [primary, unique] at read

end SchemaDump
