import Stagecraft.Proofs.Numeral

/-!
# Written trees are read back

The text of a tree is cut into its tokens, and from those the tree is read again: its numbers as
they were written, and its outlines as they may be.  A tree may only hold what the stored form of a
world is made of.
-/

namespace Stagecraft

namespace Ron

variable {ν μ : Type}

/-! ## Trees as they are read -/

mutual

/-- A tree with other trees in place of its numbers and without its outlines. -/
def Node.recast (number : ν → Node μ) : Node ν → Node μ
  | .word name => .word name
  | .number value => number value
  | .text value => .text value
  | .list items => .list (Node.recastAll number items)
  | .map entries => .map (Node.recastEntries number entries)
  | .unit => .unit
  | .tuple name items => .tuple name (Node.recastAll number items)
  | .record name fields => .record name (Node.recastFields number fields)
  | .marked _ parts => .marked .single (Node.recastAll number parts)
  | .present part => .present (part.recast number)
  | .foreign => .foreign

/-- A list of trees with other trees in place of their numbers. -/
def Node.recastAll (number : ν → Node μ) : List (Node ν) → List (Node μ)
  | [] => []
  | item :: rest => item.recast number :: Node.recastAll number rest

/-- The entries of a map with other trees in place of their numbers. -/
def Node.recastEntries (number : ν → Node μ) : List (Node ν × Node ν) → List (Node μ × Node μ)
  | [] => []
  | (key, value) :: rest =>
    (key.recast number, value.recast number) :: Node.recastEntries number rest

/-- The parts of a record with other trees in place of their numbers. -/
def Node.recastFields (number : ν → Node μ) :
    List (String × Node ν) → List (String × Node μ)
  | [] => []
  | (name, value) :: rest => (name, value.recast number) :: Node.recastFields number rest

end

/-- A number as it is read.  The words for numbers are read as words. -/
def Number.source (n : Number) : Source :=
  if isLexeme n.text then .number n.text else .word (.plain n.text)

/-- A tree as it is read, without outlines. -/
def Node.source (t : Tree) : Source := t.recast Number.source

/-- A tree that has been read, without its outlines. -/
def Node.bare (s : Source) : Source := s.recast .number

/-! ## Tokens of trees -/

/-- The token of a number. -/
def Number.token (n : Number) : Token :=
  if isLexeme n.text then .number n.text else .word (.plain n.text)

/-- The token of a name that may be missing. -/
def Name.tokens (name : Option Name) : List Token := name.toList.map .word

mutual

/-- The bare tokens of a tree. -/
def Node.tokens : Tree → List Token
  | .word name => [.word name]
  | .number value => [value.token]
  | .text value => [.text value]
  | .list items => .mark '[' :: Node.itemTokens ']' items
  | .map entries => .mark '\x7b' :: Node.entryTokens entries
  | .unit => [.unit]
  | .tuple name items => Name.tokens name ++ .opening [] 0 :: Node.itemTokens ')' items
  | .record name fields => Name.tokens name ++ .opening [] 0 :: Node.fieldTokens fields
  | .marked _ parts => .word (.plain "Some") :: .opening [] 0 :: Node.itemTokens ')' parts
  | .present part => .word (.plain "Some") :: part.tokens
  | .foreign => [.foreign]

/-- The bare tokens of trees up to a closing mark. -/
def Node.itemTokens (close : Char) : List Tree → List Token
  | [] => [.mark close]
  | [item] => item.tokens ++ [.mark close]
  | item :: next :: rest =>
    item.tokens ++ .mark ',' :: Node.itemTokens close (next :: rest)

/-- The bare tokens of the entries of a map up to the closing brace. -/
def Node.entryTokens : List (Tree × Tree) → List Token
  | [] => [.mark '\x7d']
  | [(key, value)] => key.tokens ++ .mark ':' :: (value.tokens ++ [.mark '\x7d'])
  | (key, value) :: next :: rest =>
    key.tokens ++ .mark ':' :: (value.tokens ++ .mark ',' :: Node.entryTokens (next :: rest))

/-- The bare tokens of the parts of a record up to the closing parenthesis. -/
def Node.fieldTokens : List (String × Tree) → List Token
  | [] => [.mark ')']
  | [(name, value)] => .word (.plain name) :: .mark ':' :: (value.tokens ++ [.mark ')'])
  | (name, value) :: next :: rest =>
    .word (.plain name) :: .mark ':' ::
      (value.tokens ++ .mark ',' :: Node.fieldTokens (next :: rest))

end

/-! ## Trees that can be read back -/

/-- A name of letters, digits and underscores that is not the mark of a present value. -/
def Name.Plain (name : Name) : Prop :=
  name.raw = false ∧ isWord name.text = true ∧ name.text ≠ "Some"

mutual

/-- A tree in which all names are plain, all tuples have names and parts, and all records have
parts. -/
def Node.Plain : Node ν → Prop
  | .word name => name.Plain
  | .number _ | .text _ => True
  | .list items => Node.PlainAll items
  | .map entries => Node.PlainEntries entries
  | .tuple name items => (∃ n ∈ name, Name.Plain n) ∧ items ≠ [] ∧ Node.PlainAll items
  | .record name fields => (∀ n ∈ name, Name.Plain n) ∧ fields ≠ [] ∧ Node.PlainFields fields
  | .marked _ parts => parts ≠ [] ∧ Node.PlainAll parts
  | .unit | .present _ | .foreign => False

/-- Trees that are all plain. -/
def Node.PlainAll : List (Node ν) → Prop
  | [] => True
  | item :: rest => item.Plain ∧ Node.PlainAll rest

/-- Entries of a map that are all plain. -/
def Node.PlainEntries : List (Node ν × Node ν) → Prop
  | [] => True
  | (key, value) :: rest => key.Plain ∧ value.Plain ∧ Node.PlainEntries rest

/-- Parts of a record that are all plain. -/
def Node.PlainFields : List (String × Node ν) → Prop
  | [] => True
  | (name, value) :: rest => isWord name = true ∧ value.Plain ∧ Node.PlainFields rest

end

/-- A number that is not read as one is read as a plain word. -/
theorem Number.plain_text (n : Number) (noNumber : ¬ isLexeme n.text = true) :
    Name.Plain (.plain n.text) := by
  rcases n.text_cases with same | same | isNumber
  · rw [same]
    exact ⟨rfl, by decide, by decide⟩
  · rw [same]
    exact ⟨rfl, by decide, by decide⟩
  · exact absurd isNumber noNumber

theorem Number.not_isMark_token (n : Number) (c : Char) : n.token ≠ .mark c := by
  unfold Number.token
  split <;> simp

/-- A plain tree has a first token, which does not close anything. -/
theorem Node.Plain.exists_tokens_eq {t : Tree} (plain : t.Plain) :
    ∃ token more, t.tokens = token :: more ∧ ∀ c, token = .mark c → c = '[' ∨ c = '\x7b' := by
  cases t with
  | number value =>
    exact ⟨_, _, rfl, fun c isMark => absurd isMark (value.not_isMark_token c)⟩
  | tuple name items =>
    obtain ⟨⟨n, rfl, -⟩, -⟩ := plain
    exact ⟨_, _, rfl, fun c isMark => by cases isMark⟩
  | record name fields =>
    cases name with
    | none => exact ⟨_, _, rfl, fun c isMark => by cases isMark⟩
    | some n => exact ⟨_, _, rfl, fun c isMark => by cases isMark⟩
  | list items =>
    refine ⟨_, _, rfl, fun c isMark => ?_⟩
    cases isMark
    exact .inl rfl
  | map entries =>
    refine ⟨_, _, rfl, fun c isMark => ?_⟩
    cases isMark
    exact .inr rfl
  | unit | present | foreign => cases plain
  | word | text | marked => exact ⟨_, _, rfl, fun c isMark => by cases isMark⟩

/-! ## Cutting the text of a tree -/

/-- What begins with a character that ends words ends them. -/
theorem ends_cons {c : Char} (ending : isEnding c = true) (rest : List Char) : Ends (c :: rest) := by
  intro first isFirst
  obtain rfl : c = first := by simpa using isFirst
  exact ending

theorem Name.render_eq_text {name : Name} (plain : name.Plain) : name.render = name.text := by
  simp [Name.render, plain.1]

theorem Name.eq_plain_text {name : Name} (plain : name.Plain) : name = .plain name.text := by
  cases name
  simp_all [Name.Plain]

/-- Plain trees before a closing mark have a first token, which does not close anything. -/
theorem Node.PlainAll.exists_itemTokens_eq {close : Char} {items : List Tree}
    (plain : Node.PlainAll items) (filled : items ≠ []) :
    ∃ token more, Node.itemTokens close items = token :: more ∧
      ∀ c, token = .mark c → c = '[' ∨ c = '\x7b' := by
  cases items with
  | nil => exact absurd rfl filled
  | cons item rest =>
    obtain ⟨token, more, spelled, opens⟩ := Node.Plain.exists_tokens_eq plain.1
    cases rest with
    | nil => exact ⟨token, _, by rw [Node.itemTokens, spelled]; rfl, opens⟩
    | cons next rest => exact ⟨token, _, by rw [Node.itemTokens, spelled]; rfl, opens⟩

/-- Parentheses around what does not begin with a closing one are cut off. -/
theorem Cut.parenthesis {chars rest : List Char} {tokens others : List Token}
    (opens : ∃ token more, tokens = token :: more ∧ ∀ c, token = .mark c → c = '[' ∨ c = '\x7b')
    (cut : Cut (chars ++ ')' :: rest) (tokens ++ others)) :
    Cut ('(' :: (chars ++ ')' :: rest)) (.opening [] 0 :: (tokens ++ others)) := by
  obtain ⟨token, more, rfl, noClosing⟩ := opens
  refine Cut.opening (Cut.head?_ne cut fun isClosing => ?_) cut
  rcases noClosing ')' isClosing with same | same <;> cases same

mutual

/-- The text of a plain tree is cut into its tokens. -/
theorem cut_render : (t : Tree) → t.Plain → ∀ {rest : List Char} {tokens : List Token},
    Ends rest → Cut rest tokens → Cut (t.render.toList ++ rest) (t.tokens ++ tokens)
  | .word name, plain, rest, tokens, ends, others => by
    have cut := Cut.word plain.2.1 ends others
    rw [← Name.eq_plain_text plain, ← Name.render_eq_text plain] at cut
    exact cut
  | .number value, plain, rest, tokens, ends, others => by
    simp only [Node.render, Node.tokens, Number.token]
    split
    · next isNumber => exact Cut.number isNumber ends others
    · next noNumber => exact Cut.word (value.plain_text noNumber).2.1 ends others
  | .text value, plain, rest, tokens, ends, others => Cut.text value others
  | .list items, plain, rest, tokens, ends, others => by
    have cut := cut_texts items plain (.inr rfl) others
    have whole := Cut.mark (c := '[') (by simp) cut
    simpa [Node.render, Node.tokens, enclosed] using whole
  | .map entries, plain, rest, tokens, ends, others => by
    have cut := cut_entryTexts entries plain others
    have whole := Cut.mark (c := '\x7b') (by simp) cut
    simpa [Node.render, Node.tokens, enclosed] using whole
  | .tuple name items, plain, rest, tokens, ends, others => by
    obtain ⟨⟨n, isName, namePlain⟩, filled, all⟩ := plain
    obtain rfl : name = some n := isName
    have cut := cut_texts items all (.inl rfl) others
    have group := Cut.parenthesis (all.exists_itemTokens_eq filled) cut
    have whole := Cut.word namePlain.2.1 (ends_cons (by decide) _) group
    rw [← Name.eq_plain_text namePlain, ← Name.render_eq_text namePlain] at whole
    simpa [Node.render, Node.tokens, enclosed, Name.renderOption, Name.tokens] using whole
  | .record name fields, plain, rest, tokens, ends, others => by
    obtain ⟨namePlain, filled, all⟩ := plain
    have cut := cut_fieldTexts fields all others
    have opens : ∃ token more, Node.fieldTokens fields = token :: more ∧
        ∀ c, token = .mark c → c = '[' ∨ c = '\x7b' := by
      rcases fields with _ | ⟨⟨field, value⟩, _ | ⟨next, more⟩⟩
      · exact absurd rfl filled
      all_goals exact ⟨_, _, rfl, fun c isMark => by cases isMark⟩
    have group := Cut.parenthesis opens cut
    cases name with
    | none => simpa [Node.render, Node.tokens, enclosed, Name.renderOption, Name.tokens] using group
    | some n =>
      have isPlain := namePlain n rfl
      have whole := Cut.word isPlain.2.1 (ends_cons (by decide) _) group
      rw [← Name.eq_plain_text isPlain, ← Name.render_eq_text isPlain] at whole
      simpa [Node.render, Node.tokens, enclosed, Name.renderOption, Name.tokens] using whole
  | .marked outline parts, plain, rest, tokens, ends, others => by
    obtain ⟨filled, all⟩ := plain
    have cut := cut_texts parts all (.inl rfl) others
    have group := Cut.parenthesis (all.exists_itemTokens_eq filled) cut
    have isMark : isWord "Some" = true := by decide
    have whole := Cut.word isMark (ends_cons (by decide) _) group
    simpa [Node.render, Node.tokens, enclosed] using whole

/-- The texts of plain trees are cut into their tokens. -/
theorem cut_texts : (items : List Tree) → Node.PlainAll items →
    ∀ {close : Char} {rest : List Char} {tokens : List Token}, close = ')' ∨ close = ']' →
      Cut rest tokens →
      Cut ((",".intercalate (Node.texts items)).toList ++ close :: rest)
        (Node.itemTokens close items ++ tokens)
  | [], _, close, rest, tokens, closes, others => by
    have cut := Cut.mark (c := close) (by rcases closes with rfl | rfl <;> simp) others
    simpa [Node.texts, Node.itemTokens] using cut
  | [item], plain, close, rest, tokens, closes, others => by
    have cut := Cut.mark (c := close) (by rcases closes with rfl | rfl <;> simp) others
    have ends : Ends (close :: rest) := ends_cons (by rcases closes with rfl | rfl <;> decide) _
    have whole := cut_render item plain.1 ends cut
    simpa [Node.texts, Node.itemTokens] using whole
  | item :: next :: more, plain, close, rest, tokens, closes, others => by
    have cut := cut_texts (next :: more) plain.2 closes others
    have comma := Cut.mark (c := ',') (by simp) cut
    have whole := cut_render item plain.1 (ends_cons (by decide) _) comma
    simpa [Node.texts, Node.itemTokens] using whole

/-- The texts of the entries of a plain map are cut into their tokens. -/
theorem cut_entryTexts : (entries : List (Tree × Tree)) →
    Node.PlainEntries entries → ∀ {rest : List Char} {tokens : List Token}, Cut rest tokens →
      Cut ((",".intercalate (Node.entryTexts entries)).toList ++ '\x7d' :: rest)
        (Node.entryTokens entries ++ tokens)
  | [], _, rest, tokens, others => by
    have cut := Cut.mark (c := '\x7d') (by simp) others
    simpa [Node.entryTexts, Node.entryTokens] using cut
  | [(key, value)], plain, rest, tokens, others => by
    have cut := Cut.mark (c := '\x7d') (by simp) others
    have valueCut := cut_render value plain.2.1 (ends_cons (by decide) _) cut
    have colon := Cut.mark (c := ':') (by simp) valueCut
    have whole := cut_render key plain.1 (ends_cons (by decide) _) colon
    simpa [Node.entryTexts, Node.entryTokens] using whole
  | (key, value) :: next :: more, plain, rest, tokens, others => by
    have cut := cut_entryTexts (next :: more) plain.2.2 others
    have comma := Cut.mark (c := ',') (by simp) cut
    have valueCut := cut_render value plain.2.1 (ends_cons (by decide) _) comma
    have colon := Cut.mark (c := ':') (by simp) valueCut
    have whole := cut_render key plain.1 (ends_cons (by decide) _) colon
    simpa [Node.entryTexts, Node.entryTokens] using whole

/-- The texts of the parts of a plain record are cut into their tokens. -/
theorem cut_fieldTexts : (fields : List (String × Tree)) →
    Node.PlainFields fields → ∀ {rest : List Char} {tokens : List Token}, Cut rest tokens →
      Cut ((",".intercalate (Node.fieldTexts fields)).toList ++ ')' :: rest)
        (Node.fieldTokens fields ++ tokens)
  | [], _, rest, tokens, others => by
    have cut := Cut.mark (c := ')') (by simp) others
    simpa [Node.fieldTexts, Node.fieldTokens] using cut
  | [(name, value)], plain, rest, tokens, others => by
    have cut := Cut.mark (c := ')') (by simp) others
    have valueCut := cut_render value plain.2.1 (ends_cons (by decide) _) cut
    have colon := Cut.mark (c := ':') (by simp) valueCut
    have whole := Cut.word plain.1 (ends_cons (by decide) _) colon
    simpa [Node.fieldTexts, Node.fieldTokens] using whole
  | (name, value) :: next :: more, plain, rest, tokens, others => by
    have cut := cut_fieldTexts (next :: more) plain.2.2 others
    have comma := Cut.mark (c := ',') (by simp) cut
    have valueCut := cut_render value plain.2.1 (ends_cons (by decide) _) comma
    have colon := Cut.mark (c := ':') (by simp) valueCut
    have whole := Cut.word plain.1 (ends_cons (by decide) _) colon
    simpa [Node.fieldTexts, Node.fieldTokens] using whole

end

end Ron

end Stagecraft
