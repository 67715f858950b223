/-
**Which characters a token shows.**

A token is printed with its escapes undone, and a carriage return as a line feed, so a token may show a
line feed that its text does not have. In a flat text, with none of these characters, no token does.

* `ComesFrom text read`: what was read from the text shows only what the text has, fixed marks apart.
  Each scanner gets one lemma of this form, up to **`comesFrom_scanToken`**.
* **`Reads.isFlat`**: a flat text is cut into flat tokens;
* **`Reads.quotedName_subset`**: and from any text, a quoted name has only characters of the text.
-/

import SchemaDump.Proofs.Sql.Quoted
import SchemaDump.Proofs.Sql.Spelling

namespace SchemaDump.Sql

open SchemaDump.Text

/-! ### Flat texts -/

/-- The text has no line feed, and nothing that may be shown as one. -/
def IsFlat (text : List Char) : Prop := ∀ c ∈ text, c ∉ [lineFeed, '\r', '\\']

instance (text : List Char) : Decidable (IsFlat text) := List.decidableBAll _ text

namespace IsFlat

variable {text part : List Char}

theorem mono (flat : IsFlat text) (inside : part ⊆ text) : IsFlat part := fun c listed =>
  flat c (inside listed)

theorem append {first second : List Char} (flatFirst : IsFlat first) (flatSecond : IsFlat second) :
    IsFlat (first ++ second) := by
  intro c listed
  rcases List.mem_append.mp listed with inFirst | inSecond
  · exact flatFirst c inFirst
  · exact flatSecond c inSecond

theorem lineFeed_not_mem (flat : IsFlat text) : lineFeed ∉ text := fun listed =>
  flat lineFeed listed List.mem_cons_self

theorem return_not_mem (flat : IsFlat text) : '\r' ∉ text := fun listed => flat '\r' listed (by decide)

theorem backslash_not_mem (flat : IsFlat text) : '\\' ∉ text := fun listed => flat '\\' listed (by decide)

end IsFlat

/-! ### What a token shows -/

/-- What was read from the text: the rest is left of it, a quoted name has its characters only, and if it
is flat, so is the token. -/
structure ComesFrom (text : List Char) (read : Token × List Char) : Prop where
  rest : read.2 ⊆ text
  name : ∀ name, read.1.quotedName? = some name → name.toList ⊆ text
  flat : IsFlat text → IsFlat read.1.text.toList

theorem ComesFrom.mono {text whole : List Char} {read : Token × List Char} (comes : ComesFrom text read)
    (inside : text ⊆ whole) : ComesFrom whole read where
  rest := List.Subset.trans comes.rest inside
  name name quoted := List.Subset.trans (comes.name name quoted) inside
  flat flat := comes.flat (flat.mono inside)

/-- What is read is no quoted name. -/
theorem ComesFrom.ofUnnamed {text rest : List Char} {token : Token} (inside : rest ⊆ text)
    (unnamed : token.quotedName? = none) (flat : IsFlat text → IsFlat token.text.toList) :
    ComesFrom text (token, rest) where
  rest := inside
  name name quoted := by cases unnamed.symm.trans quoted
  flat := flat

/-! ### Fixed marks, words and ends of numbers -/

section Words

variable {text rest : List Char} (restInside : rest ⊆ text)

include restInside

theorem takeWhile_subset (p : Char → Bool) : rest.takeWhile p ⊆ text :=
  List.Subset.trans (List.takeWhile_sublist p).subset restInside

theorem dropWhile_subset (p : Char → Bool) : rest.dropWhile p ⊆ text :=
  List.Subset.trans (List.dropWhile_sublist p).subset restInside

theorem comesFrom_symbol {spelling : String} (plain : IsFlat spelling.toList) :
    ComesFrom text (.symbol spelling, rest) :=
  .ofUnnamed restInside rfl fun _ => plain

theorem comesFrom_scanWord {start : List Char} (startInside : start ⊆ text) :
    ComesFrom text (scanWord start rest) := by
  refine .ofUnnamed (dropWhile_subset restInside _) rfl fun flat => ?_
  simpa [Token.text] using
    (flat.mono startInside).append (flat.mono (takeWhile_subset restInside isNamePart))

theorem comesFrom_scanLong {digits : List Char} (digitsInside : digits ⊆ text) :
    ComesFrom text (scanLong digits rest) := by
  unfold scanLong
  split
  · next after =>
    refine .ofUnnamed (List.Subset.trans (List.subset_cons_self _ _) restInside) rfl fun flat => ?_
    simpa [Token.text] using (flat.mono digitsInside).append (by decide : IsFlat ['L'])
  · exact .ofUnnamed restInside rfl fun flat => by simpa [Token.text] using flat.mono digitsInside

end Words

/-! ### Numbers -/

theorem cutSign_subset (text : List Char) : (cutSign text).1 ⊆ text ∧ (cutSign text).2 ⊆ text := by
  have whole : (cutSign text).1 ++ (cutSign text).2 = text := by
    unfold cutSign
    split
    · split <;> rfl
    · rfl
  refine List.append_subset.mp ?_
  rw [whole]
  exact List.Subset.refl text

theorem comesFrom_scanExponent {text mantissa rest : List Char} (mantissaInside : mantissa ⊆ text)
    (restInside : rest ⊆ text) : ComesFrom text (scanExponent mantissa rest) := by
  unfold scanExponent
  split
  · exact comesFrom_scanLong restInside mantissaInside
  · next c after =>
    obtain ⟨letter, afterInside⟩ := List.cons_subset.mp restInside
    obtain ⟨sign, digits⟩ := cutSign_subset after
    have signInside := List.Subset.trans sign afterInside
    have digitsInside := List.Subset.trans digits afterInside
    split
    · split
      · exact comesFrom_scanLong restInside mantissaInside
      · refine comesFrom_scanLong (dropWhile_subset digitsInside _) (List.append_subset.mpr ⟨?_, ?_⟩)
        · exact List.append_subset.mpr ⟨mantissaInside, List.cons_subset.mpr ⟨letter, signInside⟩⟩
        · exact takeWhile_subset digitsInside _
    · split
      · exact comesFrom_scanWord restInside mantissaInside
      · exact comesFrom_scanLong restInside mantissaInside

theorem comesFrom_scanFraction {text whole rest : List Char} (wholeInside : whole ⊆ text)
    (restInside : rest ⊆ text) : ComesFrom text (scanFraction whole rest) := by
  unfold scanFraction
  split
  · next after =>
    obtain ⟨point, afterInside⟩ := List.cons_subset.mp restInside
    split
    · exact comesFrom_symbol afterInside (by decide)
    · refine comesFrom_scanExponent (List.append_subset.mpr ⟨wholeInside, ?_⟩) (dropWhile_subset afterInside _)
      exact List.cons_subset.mpr ⟨point, takeWhile_subset afterInside _⟩
  · exact comesFrom_scanExponent wholeInside restInside

theorem comesFrom_scanNumber (text : List Char) : ComesFrom text (scanNumber text) := by
  have wholeInside := takeWhile_subset (List.Subset.refl text) Char.isDigit
  have leftInside := dropWhile_subset (List.Subset.refl text) Char.isDigit
  unfold scanNumber
  simp only
  split
  · next rest _ left =>
    rw [left] at leftInside
    have restInside := (List.cons_subset.mp leftInside).2
    refine .ofUnnamed (dropWhile_subset restInside _) rfl fun flat => ?_
    have digits := flat.mono (takeWhile_subset restInside (isDigitOf 16))
    simpa [Token.text] using ((by decide : IsFlat LiteralStyle.hex.opening.toList).append digits).append
      (by decide : IsFlat [LiteralStyle.hex.mark])
  · exact comesFrom_scanFraction wholeInside leftInside

/-! ### Marks, blanks and comments -/

theorem comesFrom_scanAt (rest : List Char) : ComesFrom ('@' :: rest) (scanAt rest) := by
  unfold scanAt
  split
  · exact comesFrom_symbol (by simp) (by decide)
  · exact comesFrom_symbol (by simp) (by decide)
  · next c after =>
    split
    · exact comesFrom_symbol (by simp) (by decide)
    · exact comesFrom_scanWord (fun d listed => by simp [listed]) (by simp)
  · exact comesFrom_symbol (by simp) (by decide)
  · next c after _ _ _ _ =>
    split
    · exact comesFrom_symbol (by simp) (by decide)
    · exact comesFrom_scanWord (by simp) (by simp)
  · exact comesFrom_symbol (by simp) (by decide)

theorem comesFrom_scanPlaceholder (rest : List Char) : ComesFrom ('?' :: rest) (scanPlaceholder rest) := by
  refine .ofUnnamed (dropWhile_subset (List.subset_cons_self _ _) _) rfl fun flat => ?_
  have numbers := flat.mono (List.cons_subset_cons '?' (takeWhile_subset (List.Subset.refl rest) isNumber))
  simpa [Token.text] using numbers

/-- A carriage return is the one blank that is shown as a line feed. -/
theorem comesFrom_scanBlank (c : Char) (rest : List Char) : ComesFrom (c :: rest) (scanBlank c rest) := by
  unfold scanBlank
  split
  · next same =>
    have shown (flat : IsFlat (c :: rest)) : IsFlat (Token.blank "\n").text.toList :=
      absurd (same ▸ List.mem_cons_self) flat.return_not_mem
    split
    · exact .ofUnnamed (by simp) rfl shown
    · exact .ofUnnamed (by simp) rfl shown
  · split
    · refine .ofUnnamed (by simp) rfl fun flat => ?_
      simpa [Token.text] using flat.mono (by simp : [c] ⊆ c :: rest)
    · exact .ofUnnamed (by simp) rfl fun _ => (by decide : IsFlat " ".toList)

theorem comesFrom_scanLineComment {opening : String} (plain : IsFlat opening.toList) (rest : List Char) :
    ComesFrom rest (scanLineComment opening rest) := by
  have takenInside := takeWhile_subset (List.Subset.refl rest) (· != lineFeed)
  have leftInside := dropWhile_subset (List.Subset.refl rest) (· != lineFeed)
  unfold scanLineComment
  split
  · exact .ofUnnamed (by simp) rfl fun flat => by simpa [Token.text] using plain.append flat
  · next feed after left =>
    rw [left] at leftInside
    obtain ⟨feedInside, afterInside⟩ := List.cons_subset.mp leftInside
    refine .ofUnnamed afterInside rfl fun flat => ?_
    have shown := plain.append (flat.mono (List.append_subset.mpr
      ⟨takenInside, List.cons_subset.mpr ⟨feedInside, List.nil_subset _⟩⟩))
    simpa [Token.text] using shown

theorem append_scanBlockComment {text body after : List Char}
    (read : scanBlockComment text = some (body, after)) : body ++ after = text := by
  fun_induction scanBlockComment text generalizing body with
  | case1 rest =>
    obtain ⟨rfl, rfl⟩ := Prod.mk.inj (Option.some.inj read)
    rfl
  | case2 c rest _ ih =>
    obtain ⟨⟨more, _⟩, found, same⟩ := Option.map_eq_some_iff.mp read
    obtain ⟨rfl, rfl⟩ := Prod.mk.inj same
    exact congrArg (c :: ·) (ih found)
  | case3 => cases read

theorem isFlat_operators : ∀ operator ∈ operators, IsFlat (printedOperator operator).toList := by
  decide +kernel

theorem isFlat_markToken {c : Char} (flat : IsFlat [c]) : IsFlat (markToken c).text.toList := by
  unfold markToken
  split
  · decide
  · decide
  · decide
  · decide
  · next other _ _ _ _ => simpa [Token.text] using flat

theorem comesFrom_scanMark (c : Char) (rest : List Char) : ComesFrom (c :: rest) (scanMark c rest) := by
  unfold scanMark
  split
  · next operator found =>
    refine .ofUnnamed (List.subset_cons_of_subset _ (List.drop_sublist _ _).subset) rfl fun _ => ?_
    exact isFlat_operators operator (List.mem_of_find?_eq_some found)
  · exact .ofUnnamed (by simp) (quotedName?_markToken c) fun flat => isFlat_markToken (flat.mono (by simp))

theorem comesFrom_scanSymbol {c : Char} {rest : List Char} {read : Token × List Char}
    (found : scanSymbol c rest = some read) : ComesFrom (c :: rest) read := by
  unfold scanSymbol at found
  split at found
  · obtain rfl := Option.some.inj found
    exact (comesFrom_scanLineComment (by decide) rest).mono (by simp)
  · obtain rfl := Option.some.inj found
    exact (comesFrom_scanLineComment (by decide) _).mono (by simp)
  · next after =>
    obtain ⟨⟨body, left⟩, comment, rfl⟩ := Option.map_eq_some_iff.mp found
    obtain rfl := append_scanBlockComment comment
    have inside : body ++ left ⊆ '/' :: '*' :: (body ++ left) :=
      List.subset_cons_of_subset _ (List.subset_cons_self _ _)
    obtain ⟨bodyInside, leftInside⟩ := List.append_subset.mp inside
    refine .ofUnnamed leftInside rfl fun flat => ?_
    simpa [Token.text] using (by decide : IsFlat "/*".toList).append (flat.mono bodyInside)
  · obtain rfl := Option.some.inj found
    exact comesFrom_scanMark c rest

/-! ### Literals and quoted names -/

/-- Without escapes, a body has only characters of the text. -/
theorem content_subset_scanQuoted {mark : Char} {escapes : Bool} {text content after : List Char}
    (read : scanQuoted mark escapes text = some (content, after)) (plain : escapes = true → '\\' ∉ text) :
    content ⊆ text := by
  fun_induction scanQuoted mark escapes text generalizing content with
  | case1 => cases read
  | case2 =>
    obtain ⟨rfl, -⟩ := Prod.mk.inj (Option.some.inj read)
    exact List.nil_subset _
  | case3 => cases read
  | case4 rest ih =>
    obtain ⟨⟨body, _⟩, found, same⟩ := Option.map_eq_some_iff.mp read
    obtain ⟨rfl, rfl⟩ := Prod.mk.inj same
    have inside := ih found fun on => List.not_mem_of_not_mem_cons (List.not_mem_of_not_mem_cons (plain on))
    exact List.cons_subset_cons mark (List.subset_cons_of_subset mark inside)
  | case5 d rest _ =>
    obtain ⟨rfl, -⟩ := Prod.mk.inj (Option.some.inj read)
    exact List.nil_subset _
  | case6 c d rest _ escape _ =>
    obtain ⟨on, backslash⟩ := Bool.and_eq_true_iff.mp escape
    exact absurd (beq_iff_eq.mp backslash ▸ List.mem_cons_self) (plain on)
  | case7 c d rest _ _ ih =>
    obtain ⟨⟨body, _⟩, found, same⟩ := Option.map_eq_some_iff.mp read
    obtain ⟨rfl, rfl⟩ := Prod.mk.inj same
    exact List.cons_subset_cons c (ih found fun on => List.not_mem_of_not_mem_cons (plain on))

theorem comesFrom_scanName {rest : List Char} {read : Token × List Char} (found : scanName rest = some read) :
    ComesFrom rest read := by
  obtain ⟨⟨name, after⟩, body, rfl⟩ := Option.map_eq_some_iff.mp found
  have inside : name ⊆ rest := content_subset_scanQuoted body fun on => absurd on Bool.false_ne_true
  refine ⟨(suffix_scanQuoted body).subset, fun other quoted => ?_, fun flat => ?_⟩
  · obtain rfl := Option.some.inj quoted
    rwa [String.toList_ofList]
  · simpa [Token.text] using ((by decide : IsFlat ['`']).append (flat.mono inside)).append
      (by decide : IsFlat ['`'])

theorem subset_scanEscape {c d : Char} {rest after : List Char}
    (read : scanEscape c rest = some (d, after)) : after ⊆ rest := by
  have point {count : Nat} (found : scanPoint count rest = some (d, after)) : after ⊆ rest := by
    unfold scanPoint at found
    split at found
    · cases found
    · obtain ⟨_, -, same⟩ := Option.bind_eq_some_iff.mp found
      obtain ⟨-, rfl⟩ := Prod.mk.inj (Option.some.inj same)
      exact (List.drop_sublist _ _).subset
  have byte {base count : Nat} {before : List Char} (found : scanByte base count before rest = some (d, after)) :
      after ⊆ rest := by
    obtain ⟨_, -, same⟩ := Option.map_eq_some_iff.mp found
    obtain ⟨-, rfl⟩ := Prod.mk.inj same
    exact (List.drop_sublist _ _).subset
  have plain {e : Char} (same : some (e, rest) = some (d, after)) : after ⊆ rest := by
    obtain ⟨-, rfl⟩ := Prod.mk.inj (Option.some.inj same)
    exact List.Subset.refl _
  unfold scanEscape at read
  split at read
  · exact plain read
  · exact plain read
  · exact plain read
  · exact plain read
  · exact plain read
  · exact point read
  · exact point read
  · split at read
    · exact byte read
    · exact plain read
  · split at read
    · exact byte read
    · exact plain read

/-- What is left is left of the text, and where nothing is escaped, the body has only its characters. -/
theorem subset_scanEscaped {text content after : List Char}
    (read : scanEscaped text = some (content, after)) :
    after ⊆ text ∧ ('\\' ∉ text → content ⊆ text) := by
  fun_induction scanEscaped text generalizing content with
  | case1 => cases read
  | case2 =>
    obtain ⟨rfl, rfl⟩ := Prod.mk.inj (Option.some.inj read)
    exact ⟨List.nil_subset _, fun _ => List.nil_subset _⟩
  | case3 => cases read
  | case4 rest ih =>
    obtain ⟨⟨body, _⟩, found, same⟩ := Option.map_eq_some_iff.mp read
    obtain ⟨rfl, rfl⟩ := Prod.mk.inj same
    obtain ⟨left, inside⟩ := ih found
    refine ⟨List.subset_cons_of_subset _ (List.subset_cons_of_subset _ left), fun plain => ?_⟩
    have later := inside (List.not_mem_of_not_mem_cons (List.not_mem_of_not_mem_cons plain))
    exact List.cons_subset_cons _ (List.subset_cons_of_subset _ later)
  | case5 d rest _ =>
    obtain ⟨rfl, rfl⟩ := Prod.mk.inj (Option.some.inj read)
    exact ⟨List.subset_cons_self _ _, fun _ => List.nil_subset _⟩
  | case6 => cases read
  | case7 d rest e tail escape _ _ ih =>
    obtain ⟨⟨body, _⟩, found, same⟩ := Option.map_eq_some_iff.mp read
    obtain ⟨-, rfl⟩ := Prod.mk.inj same
    have left := List.Subset.trans (ih found).1 (subset_scanEscape escape)
    exact ⟨List.subset_cons_of_subset _ (List.subset_cons_of_subset _ left),
      fun plain => absurd List.mem_cons_self plain⟩
  | case8 => cases read
  | case9 c d rest _ _ ih =>
    obtain ⟨⟨body, _⟩, found, same⟩ := Option.map_eq_some_iff.mp read
    obtain ⟨rfl, rfl⟩ := Prod.mk.inj same
    obtain ⟨left, inside⟩ := ih found
    exact ⟨List.subset_cons_of_subset _ left,
      fun plain => List.cons_subset_cons c (inside (List.not_mem_of_not_mem_cons plain))⟩

theorem comesFrom_scanLiteral {style : LiteralStyle} {body : List Char} {read : Token × List Char}
    (found : scanLiteral style body = some read) : ComesFrom body read := by
  obtain ⟨⟨content, after⟩, scanned, rfl⟩ := Option.map_eq_some_iff.mp found
  have rest : after ⊆ body := by
    cases style with
    | escaped => exact (subset_scanEscaped scanned).1
    | _ => exact (suffix_scanQuoted scanned).subset
  have inside (plain : '\\' ∉ body) : content ⊆ body := by
    cases style with
    | escaped => exact (subset_scanEscaped scanned).2 plain
    | _ => exact content_subset_scanQuoted scanned fun _ => plain
  refine .ofUnnamed rest rfl fun flat => ?_
  have marks : IsFlat style.opening.toList ∧ IsFlat [style.mark] := by
    cases style <;> decide
  simpa [Token.text] using (marks.1.append (flat.mono (inside flat.backslash_not_mem))).append marks.2

/-! ### The next token, and all of them -/

theorem openedLiteral?_subset {c : Char} {rest body : List Char} {style : LiteralStyle}
    (opened : openedLiteral? c rest = some (style, body)) : body ⊆ rest := by
  unfold openedLiteral? at opened
  split at opened
  · obtain ⟨-, rfl⟩ := Prod.mk.inj (Option.some.inj opened)
    exact List.Subset.refl _
  split at opened
  · obtain ⟨-, rfl⟩ := Prod.mk.inj (Option.some.inj opened)
    exact List.Subset.refl _
  cases rest with
  | nil => cases opened
  | cons mark more =>
    have tail : more = body := by
      revert opened
      simp only
      repeat' split
      all_goals simp
    exact tail ▸ List.subset_cons_self _ _

/-- **A token shows what its text has.** -/
theorem comesFrom_scanToken {c : Char} {rest : List Char} {read : Token × List Char}
    (found : scanToken c rest = some read) : ComesFrom (c :: rest) read := by
  have behind : rest ⊆ c :: rest := List.subset_cons_self c rest
  unfold scanToken at found
  split at found
  · next style body opened =>
    exact (comesFrom_scanLiteral found).mono (List.Subset.trans (openedLiteral?_subset opened) behind)
  split at found
  · exact (comesFrom_scanName found).mono behind
  split at found
  · obtain rfl := Option.some.inj found
    exact comesFrom_scanNumber _
  split at found
  · next opens =>
    obtain rfl := Option.some.inj found
    exact opens ▸ comesFrom_scanAt rest
  split at found
  · next opens =>
    obtain rfl := Option.some.inj found
    exact opens ▸ comesFrom_scanPlaceholder rest
  split at found
  · obtain rfl := Option.some.inj found
    exact comesFrom_scanWord behind (by simp)
  split at found
  · obtain rfl := Option.some.inj found
    exact comesFrom_scanBlank c rest
  · exact comesFrom_scanSymbol found

namespace Reads

variable {text rest : List Char} {tokens : List Token} (reads : Reads text tokens rest)

include reads

/-- **A quoted name has only characters of the text.** -/
theorem quotedName_subset {name : String} (listed : .quotedName name ∈ tokens) : name.toList ⊆ text := by
  induction reads with
  | done => exact absurd listed List.not_mem_nil
  | next read _ ih =>
    have comes := comesFrom_scanToken read
    rcases List.mem_cons.mp listed with first | later
    · exact comes.name name (first ▸ rfl)
    · exact List.Subset.trans (ih later) comes.rest

/-- **A flat text is cut into flat tokens.** -/
theorem isFlat (flat : IsFlat text) : ∀ token ∈ tokens, IsFlat token.text.toList := by
  induction reads with
  | done => exact List.forall_mem_nil _
  | next read _ ih =>
    have comes := comesFrom_scanToken read
    exact List.forall_mem_cons.mpr ⟨comes.flat flat, ih (flat.mono comes.rest)⟩

end Reads

end SchemaDump.Sql
