/-
**Reading tokens from the front of a text.**

`Reads text tokens rest` says that the scanner, started at the text, comes by these tokens to the place
where the rest is left. It is the scanner's own run, cut at any of its stops, so readings compose
(`Reads.trans`), and a whole text has tokens exactly if a reading leaves nothing (`tokens?_eq_some_iff`).
-/

import SchemaDump.Sql.Tokens

namespace SchemaDump.Sql

open SchemaDump.Text

theorem tokens?_nil : tokens? [] = some [] := by
  rw [tokens?]

theorem tokens?_cons (c : Char) (rest : List Char) :
    tokens? (c :: rest) =
      (scanToken c rest).bind fun read => (tokens? read.2).map (read.1 :: ·) := by
  rw [tokens?]
  split
  · next found => rw [found, Option.bind_some]
  · next found => rw [found, Option.bind_none]

/-- The scanner reads the tokens from the front of the text and leaves the rest. -/
inductive Reads : (text : List Char) → (tokens : List Token) → (rest : List Char) → Prop
  | done (text : List Char) : Reads text [] text
  | next {c : Char} {more after rest : List Char} {token : Token} {tokens : List Token} :
      scanToken c more = some (token, after) → Reads after tokens rest →
      Reads (c :: more) (token :: tokens) rest

namespace Reads

variable {text middle rest : List Char} {tokens more : List Token}

theorem single {c : Char} {after rest : List Char} {token : Token}
    (read : scanToken c after = some (token, rest)) : Reads (c :: after) [token] rest :=
  .next read (.done rest)

theorem trans (first : Reads text tokens middle) (second : Reads middle more rest) :
    Reads text (tokens ++ more) rest := by
  induction first with
  | done => exact second
  | next read _ ih => exact .next read (ih second)

/-- The tokens of a text are those read from its front, then those of the rest. -/
theorem tokens?_eq (reads : Reads text tokens rest) :
    tokens? text = (tokens? rest).map (tokens ++ ·) := by
  induction reads with
  | done text => simp
  | next read _ ih =>
    rw [tokens?_cons, read, Option.bind_some, ih, Option.map_map]
    rfl

end Reads

theorem reads_of_tokens? {text : List Char} {tokens : List Token}
    (found : tokens? text = some tokens) : Reads text tokens [] := by
  induction tokens generalizing text with
  | nil =>
    cases text with
    | nil => exact .done []
    | cons c rest =>
      rw [tokens?_cons] at found
      simp [Option.bind_eq_some_iff] at found
  | cons token tokens ih =>
    cases text with
    | nil => simp [tokens?_nil] at found
    | cons c rest =>
      rw [tokens?_cons, Option.bind_eq_some_iff] at found
      obtain ⟨⟨first, after⟩, read, rest⟩ := found
      simp only [Option.map_eq_some_iff, List.cons.injEq] at rest
      obtain ⟨_, later, rfl, rfl⟩ := rest
      exact .next read (ih later)

/-- **A text has tokens exactly if they can be read to its end.** -/
theorem tokens?_eq_some_iff {text : List Char} {tokens : List Token} :
    tokens? text = some tokens ↔ Reads text tokens [] := by
  refine ⟨reads_of_tokens?, fun reads => ?_⟩
  rw [reads.tokens?_eq, tokens?_nil, Option.map_some, List.append_nil]

end SchemaDump.Sql
