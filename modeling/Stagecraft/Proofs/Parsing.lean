import Stagecraft.Proofs.Notation

/-!
# Trees are read from their tokens

From the tokens of a plain tree that tree is read, if it is not nested too deeply.
-/

namespace Stagecraft

namespace Ron

/-! ## Nesting -/

mutual

/-- How many levels readers go down in a tree.  The name of a variant lies one level below it, each
member of a list, map or record one level below that, and its value one more. -/
def Node.levels {ν : Type} : Node ν → Nat
  | .word name => if name.isValue then 0 else 2
  | .number _ | .text _ | .unit | .foreign => 0
  | .list items => Node.levelsAll items + 1
  | .map entries => Node.levelsEntries entries + 1
  | .tuple _ items => Node.levelsAll items + 1
  | .record name fields => Node.levelsFields fields + if name.isSome then 2 else 1
  | .marked _ parts => Node.levelsAll parts
  | .present part => part.levels + 1

/-- How many levels readers go down in the members of a list. -/
def Node.levelsAll {ν : Type} : List (Node ν) → Nat
  | [] => 0
  | item :: rest => max (item.levels + 1) (Node.levelsAll rest)

/-- How many levels readers go down in the entries of a map. -/
def Node.levelsEntries {ν : Type} : List (Node ν × Node ν) → Nat
  | [] => 0
  | (key, value) :: rest => max (max key.levels value.levels + 1) (Node.levelsEntries rest)

/-- How many levels readers go down in the parts of a record. -/
def Node.levelsFields {ν : Type} : List (String × Node ν) → Nat
  | [] => 0
  | (_, value) :: rest => max (value.levels + 1) (Node.levelsFields rest)

end

/-! ## Bare tokens -/

/-- A token that is no parenthesis is found where its bare form is. -/
theorem exists_of_map_bare_eq_cons {cut after : List Token} {token : Token}
    (other : token ≠ .opening [] 0) (spelled : cut.map Token.bare = token :: after) :
    ∃ rest, cut = token :: rest ∧ rest.map Token.bare = after := by
  obtain ⟨first, rest, rfl, same, sameRest⟩ := List.map_eq_cons_iff.mp spelled
  refine ⟨rest, ?_, sameRest⟩
  cases first with
  | opening => exact absurd same.symm other
  | _ => rw [← same]; rfl

/-- An opening parenthesis is found where its bare form is. -/
theorem exists_of_map_bare_eq_opening {cut after : List Token}
    (spelled : cut.map Token.bare = .opening [] 0 :: after) :
    ∃ text bound rest, cut = .opening text bound :: rest ∧ rest.map Token.bare = after := by
  obtain ⟨first, rest, rfl, same, sameRest⟩ := List.map_eq_cons_iff.mp spelled
  cases first with
  | opening text bound => exact ⟨text, bound, rest, rfl, sameRest⟩
  | _ => cases same

/-- What follows a tree in another one or at the end of a text: nothing, or a mark. -/
def Follows (after : List Token) : Prop := ∀ token ∈ after.head?, ∃ c, token = .mark c

theorem follows_cons (c : Char) (after : List Token) : Follows (.mark c :: after) := by
  intro token isFirst
  obtain rfl : Token.mark c = token := by simpa using isFirst
  exact ⟨c, rfl⟩

theorem eq_mark_of_bare_eq {token : Token} {c : Char} (same : token.bare = .mark c) :
    token = .mark c := by
  cases token <;> simp_all [Token.bare]

/-! ## Steps of the grammar -/

variable {fuel levels : Nat}

/-- A word before a mark is read as it is. -/
theorem parseNode_word {name : Name} {rest : List Token} (other : name ≠ .plain "Some")
    (follows : Follows (rest.map Token.bare)) :
    parseNode (fuel + 1) levels (.word name :: rest) = some (.word name, rest) := by
  cases rest with
  | nil => simp [parseNode]
  | cons token rest =>
    obtain ⟨c, isMark⟩ := follows token.bare rfl
    obtain rfl := eq_mark_of_bare_eq isMark
    simp [parseNode, other]

theorem parseNode_number (lexeme : String) (rest : List Token) :
    parseNode (fuel + 1) levels (.number lexeme :: rest) = some (.number lexeme, rest) := by
  simp [parseNode]

theorem parseNode_text (value : String) (rest : List Token) :
    parseNode (fuel + 1) levels (.text value :: rest) = some (.text value, rest) := by
  simp [parseNode]

theorem parseNode_list (rest : List Token) :
    parseNode (fuel + 1) (levels + 1) (.mark '[' :: rest) =
      (parseItems fuel levels ']' rest).map fun (items, rest) => (.list items, rest) := by
  simp [parseNode, below]

theorem parseNode_map (rest : List Token) :
    parseNode (fuel + 1) (levels + 1) (.mark '\x7b' :: rest) =
      (parseEntries fuel levels rest).map fun (entries, rest) => (.map entries, rest) := by
  simp [parseNode, below]

theorem parseNode_named (name : Name) (after : List Char) (bound : Nat) (rest : List Token) :
    parseNode (fuel + 1) (levels + 1) (.word name :: .opening after bound :: rest) =
      parseGroup fuel levels (some name) bound after rest := by
  simp [parseNode, below]

theorem parseNode_opening (after : List Char) (bound : Nat) (rest : List Token) :
    parseNode (fuel + 1) (levels + 1) (.opening after bound :: rest) =
      parseGroup fuel levels none bound after rest := by
  simp [parseNode, below]

theorem parseGroup_fields (name : Option Name) (bound : Nat) (after : List Char) (field : Name)
    (rest : List Token) :
    parseGroup (fuel + 1) levels name bound after (.word field :: .mark ':' :: rest) =
      (parseFields fuel levels (.word field :: .mark ':' :: rest)).map fun (fields, rest) =>
        (.record name fields, rest) := by
  simp [parseGroup]

/-- A tuple is read as such if its first token is no word before a colon. -/
theorem parseGroup_items {name : Option Name} {bound : Nat} {after : List Char} {cut : List Token}
    (noField : ∀ field rest, cut ≠ .word field :: .mark ':' :: rest) :
    parseGroup (fuel + 1) levels name bound after cut =
      (parseItems fuel levels ')' cut).map fun (items, rest) =>
        (tupleOf name bound after items, rest) := by
  unfold parseGroup
  split
  · next isZero => cases isZero
  · next same => exact absurd rfl (noField _ _)
  · next same _ =>
    cases same
    rfl

/-- Further trees are read if the closing mark does not follow at once. -/
theorem parseItems_eq_parseItem {close : Char} {cut : List Token}
    (opens : ∀ rest, cut ≠ .mark close :: rest) :
    parseItems (fuel + 1) levels close cut = parseItem fuel levels close cut := by
  unfold parseItems
  split
  · next c rest =>
    split
    · next same => exact absurd (by rw [same]) (opens rest)
    · rfl
  · rfl

/-- A tree before the closing mark is the last one. -/
theorem parseItem_last {close : Char} {cut rest : List Token} {src : Source} (other : close ≠ ',')
    (read : parseNode fuel levels cut = some (src, .mark close :: rest)) :
    parseItem (fuel + 1) levels close cut = some ([src], rest) := by
  simp [parseItem, read]

/-- Further trees are read after a comma. -/
theorem parseItem_comma {close : Char} {cut rest : List Token} {src : Source}
    (read : parseNode fuel levels cut = some (src, .mark ',' :: rest)) :
    parseItem (fuel + 1) levels close cut =
      (parseItems fuel levels close rest).map fun (items, rest) => (src :: items, rest) := by
  simp only [parseItem, read, Option.bind_eq_bind, Option.bind_some]
  cases parseItems fuel levels close rest <;> rfl

/-- An entry before the closing brace is the last one. -/
theorem parseEntries_last {cut more rest : List Token} {key value : Source}
    (opens : ∀ rest, cut ≠ .mark '\x7d' :: rest)
    (readKey : parseNode fuel levels cut = some (key, .mark ':' :: more))
    (readValue : parseNode fuel levels more = some (value, .mark '\x7d' :: rest)) :
    parseEntries (fuel + 1) levels cut = some ([(key, value)], rest) := by
  unfold parseEntries
  split
  · next isZero => cases isZero
  · next same => exact absurd rfl (opens _)
  · next same _ =>
    cases same
    simp [readKey, readValue]

/-- Further entries are read after a comma. -/
theorem parseEntries_comma {cut more rest : List Token} {key value : Source}
    (opens : ∀ rest, cut ≠ .mark '\x7d' :: rest)
    (readKey : parseNode fuel levels cut = some (key, .mark ':' :: more))
    (readValue : parseNode fuel levels more = some (value, .mark ',' :: rest)) :
    parseEntries (fuel + 1) levels cut =
      (parseEntries fuel levels rest).map fun (entries, rest) => ((key, value) :: entries, rest) := by
  generalize further : parseEntries fuel levels rest = answer
  unfold parseEntries
  split
  · next isZero => cases isZero
  · next same => exact absurd rfl (opens _)
  · next same _ =>
    cases same
    cases answer <;> simp [readKey, readValue, further]

/-- A named part before the closing parenthesis is the last one. -/
theorem parseFields_last {more rest : List Token} {name : Name} {value : Source}
    (read : parseNode fuel levels more = some (value, .mark ')' :: rest)) :
    parseFields (fuel + 1) levels (.word name :: .mark ':' :: more) =
      some ([(name.text, value)], rest) := by
  simp [parseFields, read]

/-- Further named parts are read after a comma. -/
theorem parseFields_comma {more rest : List Token} {name : Name} {value : Source}
    (read : parseNode fuel levels more = some (value, .mark ',' :: rest)) :
    parseFields (fuel + 1) levels (.word name :: .mark ':' :: more) =
      (parseFields fuel levels rest).map fun (fields, rest) =>
        ((name.text, value) :: fields, rest) := by
  simp only [parseFields, read, Option.bind_eq_bind, Option.bind_some]
  cases parseFields fuel levels rest <;> rfl

/-! ## Reading a tree -/

/-- Something is read that has the expected form, and the given tokens are left. -/
def Yields {α β : Type} (answer : Option (α × List Token)) (form : α → β) (expected : β)
    (after : List Token) : Prop :=
  ∃ value rest, answer = some (value, rest) ∧ rest.map Token.bare = after ∧ form value = expected

theorem Yields.map {α β α' β' : Type} {answer : Option (α × List Token)} {form : α → β}
    {expected : β} {after : List Token} (yields : Yields answer form expected after)
    {change : α → α'} {form' : α' → β'} {expected' : β'}
    (changed : ∀ value, form value = expected → form' (change value) = expected') :
    Yields (answer.map fun (value, rest) => (change value, rest)) form' expected' after := by
  obtain ⟨value, rest, rfl, same, isForm⟩ := yields
  exact ⟨change value, rest, rfl, same, changed value isForm⟩

/-- What is left begins with a mark, if that is what was to be left. -/
theorem Yields.exists_mark {α β : Type} {answer : Option (α × List Token)} {form : α → β}
    {expected : β} {c : Char} {after : List Token}
    (yields : Yields answer form expected (.mark c :: after)) :
    ∃ value rest, answer = some (value, .mark c :: rest) ∧ rest.map Token.bare = after ∧
      form value = expected := by
  obtain ⟨value, left, answered, same, isForm⟩ := yields
  obtain ⟨rest, rfl, sameRest⟩ := exists_of_map_bare_eq_cons (by simp) same
  exact ⟨value, rest, answered, sameRest, isForm⟩

/-- Where some tokens are to be read, there is fuel for some steps. -/
theorem exists_eq_add_of_le {tokens : List Token} {fuel : Nat} (enough : 4 * tokens.length ≤ fuel)
    (filled : tokens ≠ []) : ∃ left, fuel = left + 4 := by
  have := List.length_pos_iff.mpr filled
  exact ⟨fuel - 4, by omega⟩

theorem itemTokens_ne_nil (close : Char) (items : List Tree) : Node.itemTokens close items ≠ [] := by
  rcases items with _ | ⟨item, _ | ⟨next, rest⟩⟩ <;> simp [Node.itemTokens]

/-- The tokens of a plain tree do not begin with a closing mark. -/
theorem Node.Plain.ne_mark {t : Tree} (plain : t.Plain) {close : Char}
    (closes : close ≠ '[' ∧ close ≠ '\x7b') {cut after rest : List Token}
    (spelled : cut.map Token.bare = t.tokens ++ after) : cut ≠ .mark close :: rest := by
  rintro rfl
  obtain ⟨token, more, begins, opens⟩ := plain.exists_tokens_eq
  rw [begins] at spelled
  rcases opens close (List.cons.inj spelled).1.symm with same | same
  · exact closes.1 same
  · exact closes.2 same

/-- What is a word before a mark in the tokens of a plain tree is all of that tree. -/
theorem Node.Plain.eq_of_tokens_eq {t : Tree} (plain : t.Plain) {c d : Char} {field : Name}
    {after rest : List Token} (same : t.tokens ++ .mark c :: after = .word field :: .mark d :: rest) :
    c = d := by
  cases t with
  | number value =>
    have same : value.token :: .mark c :: after = .word field :: .mark d :: rest := same
    simp only [List.cons.injEq, Token.mark.injEq] at same
    exact same.2.1
  | tuple name items =>
    obtain ⟨⟨n, isName, -⟩, -⟩ := plain
    obtain rfl : name = Option.some n := isName
    simp [Node.tokens, Name.tokens] at same
  | record name fields => cases name <;> simp [Node.tokens, Name.tokens] at same
  | unit | present | foreign => cases plain
  | word | text | list | map | marked => simp_all [Node.tokens]

/-- No part of a tuple looks like the part of a record. -/
theorem Node.PlainAll.ne_field {items : List Tree} (plain : Node.PlainAll items)
    (filled : items ≠ []) {cut after rest : List Token} {field : Name}
    (spelled : cut.map Token.bare = Node.itemTokens ')' items ++ after) :
    cut ≠ .word field :: .mark ':' :: rest := by
  rintro rfl
  have spelled : .word field :: .mark ':' :: rest.map Token.bare =
      Node.itemTokens ')' items ++ after := spelled
  rcases items with _ | ⟨item, _ | ⟨next, more⟩⟩
  · exact absurd rfl filled
  · rw [Node.itemTokens, List.append_assoc] at spelled
    exact absurd (plain.1.eq_of_tokens_eq spelled.symm) (by decide)
  · rw [Node.itemTokens, List.append_assoc] at spelled
    exact absurd (plain.1.eq_of_tokens_eq spelled.symm) (by decide)

mutual

/-- From the tokens of a plain tree the tree is read. -/
theorem parseNode_tokens : (t : Tree) → t.Plain →
    ∀ (fuel levels : Nat) {cut after : List Token}, cut.map Token.bare = t.tokens ++ after →
      Follows after → 4 * t.tokens.length ≤ fuel → t.levels ≤ levels →
      Yields (parseNode fuel levels cut) Node.bare t.source after
  | .word name, plain, fuel, levels, cut, after, spelled, follows, enough, shallow => by
    obtain ⟨fuel, rfl⟩ := exists_eq_add_of_le enough (by simp [Node.tokens])
    have spelled : cut.map Token.bare = .word name :: after := spelled
    obtain ⟨rest, rfl, same⟩ := exists_of_map_bare_eq_cons (by simp) spelled
    have other : name ≠ .plain "Some" := by
      rintro rfl
      exact plain.2.2 rfl
    rw [← same] at follows
    exact ⟨_, _, parseNode_word other follows, same, rfl⟩
  | .number value, plain, fuel, levels, cut, after, spelled, follows, enough, shallow => by
    obtain ⟨fuel, rfl⟩ := exists_eq_add_of_le enough (by simp [Node.tokens])
    have spelled : cut.map Token.bare = value.token :: after := spelled
    have source : Node.source (.number value) = value.source := rfl
    rw [source]
    unfold Number.token at spelled
    unfold Number.source
    split at spelled
    · next isNumber =>
      obtain ⟨rest, rfl, same⟩ := exists_of_map_bare_eq_cons (by simp) spelled
      rw [if_pos isNumber]
      exact ⟨_, _, parseNode_number _ rest, same, rfl⟩
    · next noNumber =>
      obtain ⟨rest, rfl, same⟩ := exists_of_map_bare_eq_cons (by simp) spelled
      rw [if_neg noNumber]
      rw [← same] at follows
      have other : Name.plain value.text ≠ .plain "Some" :=
        fun isMark => (value.plain_text noNumber).2.2 (congrArg Name.text isMark)
      exact ⟨_, _, parseNode_word other follows, same, rfl⟩
  | .text value, plain, fuel, levels, cut, after, spelled, follows, enough, shallow => by
    obtain ⟨fuel, rfl⟩ := exists_eq_add_of_le enough (by simp [Node.tokens])
    have spelled : cut.map Token.bare = .text value :: after := spelled
    obtain ⟨rest, rfl, same⟩ := exists_of_map_bare_eq_cons (by simp) spelled
    exact ⟨_, _, parseNode_text value rest, same, rfl⟩
  | .list items, plain, fuel, levels, cut, after, spelled, follows, enough, shallow => by
    simp only [Node.tokens, Node.levels, List.length_cons] at enough shallow
    obtain ⟨fuel, rfl⟩ : ∃ left, fuel = left + 1 := ⟨fuel - 1, by omega⟩
    obtain ⟨levels, rfl⟩ : ∃ left, levels = left + 1 := ⟨levels - 1, by omega⟩
    have spelled : cut.map Token.bare = .mark '[' :: (Node.itemTokens ']' items ++ after) := spelled
    obtain ⟨rest, rfl, same⟩ := exists_of_map_bare_eq_cons (by simp) spelled
    have read := parseItems_tokens items plain fuel levels (.inr rfl) same
      (by omega) (by omega)
    rw [parseNode_list]
    exact read.map fun srcs isForm => congrArg Node.list isForm
  | .map entries, plain, fuel, levels, cut, after, spelled, follows, enough, shallow => by
    simp only [Node.tokens, Node.levels, List.length_cons] at enough shallow
    obtain ⟨fuel, rfl⟩ : ∃ left, fuel = left + 1 := ⟨fuel - 1, by omega⟩
    obtain ⟨levels, rfl⟩ : ∃ left, levels = left + 1 := ⟨levels - 1, by omega⟩
    have spelled : cut.map Token.bare = .mark '\x7b' :: (Node.entryTokens entries ++ after) :=
      spelled
    obtain ⟨rest, rfl, same⟩ := exists_of_map_bare_eq_cons (by simp) spelled
    have read := parseEntries_tokens entries plain fuel levels same
      (by omega) (by omega)
    rw [parseNode_map]
    exact read.map fun srcs isForm => congrArg Node.map isForm
  | .tuple name items, plain, fuel, levels, cut, after, spelled, follows, enough, shallow => by
    obtain ⟨⟨n, isName, namePlain⟩, filled, all⟩ := plain
    obtain rfl : name = some n := isName
    simp only [Node.tokens, Name.tokens, Option.toList_some, List.map_singleton,
      List.singleton_append, Node.levels, List.length_cons] at enough shallow
    obtain ⟨fuel, rfl⟩ : ∃ left, fuel = left + 2 := ⟨fuel - 2, by omega⟩
    obtain ⟨levels, rfl⟩ : ∃ left, levels = left + 1 := ⟨levels - 1, by omega⟩
    have spelled : cut.map Token.bare =
        .word n :: .opening [] 0 :: (Node.itemTokens ')' items ++ after) := spelled
    obtain ⟨group, rfl, sameGroup⟩ := exists_of_map_bare_eq_cons (by simp) spelled
    obtain ⟨text, bound, rest, rfl, same⟩ := exists_of_map_bare_eq_opening sameGroup
    have read := parseItems_tokens items all fuel levels (.inl rfl) same
      (by omega) (by omega)
    rw [parseNode_named, parseGroup_items fun field others => all.ne_field filled same]
    refine read.map fun srcs areForms => ?_
    have other : some n ≠ some (Name.plain "Some") := by
      intro isMark
      cases isMark
      exact namePlain.2.2 rfl
    rw [tupleOf, if_neg other]
    exact congrArg (Node.tuple (some n)) areForms
  | .record name fields, plain, fuel, levels, cut, after, spelled, follows, enough, shallow => by
    obtain ⟨namePlain, filled, all⟩ := plain
    obtain ⟨field, more, begins⟩ : ∃ field more,
        Node.fieldTokens fields = .word field :: .mark ':' :: more := by
      rcases fields with _ | ⟨⟨field, value⟩, _ | ⟨next, others⟩⟩
      · exact absurd rfl filled
      · exact ⟨_, _, rfl⟩
      · exact ⟨_, _, rfl⟩
    simp only [Node.tokens, Node.levels, List.length_append, List.length_cons] at enough shallow
    obtain ⟨levels, rfl⟩ : ∃ left, levels = left + 1 := ⟨levels - 1, by split at shallow <;> omega⟩
    have read : ∀ {fuel : Nat} {rest : List Token},
        rest.map Token.bare = Node.fieldTokens fields ++ after →
        4 * (Node.fieldTokens fields).length ≤ fuel → ∀ text bound,
        Yields (parseGroup (fuel + 1) levels name bound text rest) Node.bare
          (Node.source (.record name fields)) after := by
      intro fuel rest same enough text bound
      have read := parseFields_tokens fields all fuel levels same enough
        (by split at shallow <;> omega)
      rw [begins] at same
      obtain ⟨others, rfl, sameColon⟩ := exists_of_map_bare_eq_cons (by simp) same
      obtain ⟨values, rfl, -⟩ := exists_of_map_bare_eq_cons (by simp) sameColon
      rw [parseGroup_fields]
      exact read.map fun srcs areForms => congrArg (Node.record name) areForms
    cases name with
    | none =>
      obtain ⟨fuel, rfl⟩ : ∃ left, fuel = left + 2 := ⟨fuel - 2, by omega⟩
      have spelled : cut.map Token.bare = .opening [] 0 :: (Node.fieldTokens fields ++ after) :=
        spelled
      obtain ⟨text, bound, rest, rfl, same⟩ := exists_of_map_bare_eq_opening spelled
      rw [parseNode_opening]
      exact read same (by omega) text bound
    | some n =>
      obtain ⟨fuel, rfl⟩ : ∃ left, fuel = left + 2 := ⟨fuel - 2, by omega⟩
      have spelled : cut.map Token.bare =
          .word n :: .opening [] 0 :: (Node.fieldTokens fields ++ after) := spelled
      obtain ⟨group, rfl, sameGroup⟩ := exists_of_map_bare_eq_cons (by simp) spelled
      obtain ⟨text, bound, rest, rfl, same⟩ := exists_of_map_bare_eq_opening sameGroup
      rw [parseNode_named]
      exact read same (by omega) text bound
  | .marked _ parts, plain, fuel, levels, cut, after, spelled, follows, enough, shallow => by
    obtain ⟨filled, all⟩ := plain
    simp only [Node.tokens, Node.levels, List.length_cons] at enough shallow
    obtain ⟨fuel, rfl⟩ : ∃ left, fuel = left + 2 := ⟨fuel - 2, by omega⟩
    obtain ⟨levels, rfl⟩ : ∃ left, levels = left + 1 := by
      rcases parts with _ | ⟨part, more⟩
      · exact absurd rfl filled
      · rw [Node.levelsAll] at shallow
        exact ⟨levels - 1, by omega⟩
    have spelled : cut.map Token.bare =
        .word "Some" :: .opening [] 0 :: (Node.itemTokens ')' parts ++ after) := spelled
    obtain ⟨group, rfl, sameGroup⟩ := exists_of_map_bare_eq_cons (by simp) spelled
    obtain ⟨text, bound, rest, rfl, same⟩ := exists_of_map_bare_eq_opening sameGroup
    have read := parseItems_tokens parts all fuel levels (.inl rfl) same
      (by omega) (by omega)
    rw [parseNode_named, parseGroup_items fun field others => all.ne_field filled same]
    refine read.map fun srcs areForms => ?_
    rw [tupleOf, if_pos rfl]
    exact congrArg (Node.marked .single) areForms

/-- From the tokens of plain trees the trees are read. -/
theorem parseItems_tokens : (items : List Tree) → Node.PlainAll items →
    ∀ {close : Char} (fuel levels : Nat) {cut after : List Token}, close = ')' ∨ close = ']' →
      cut.map Token.bare = Node.itemTokens close items ++ after →
      4 * (Node.itemTokens close items).length ≤ fuel → Node.levelsAll items ≤ levels + 1 →
      Yields (parseItems fuel levels close cut) (Node.recastAll .number)
        (Node.recastAll Number.source items) after
  | [], plain, close, fuel, levels, cut, after, closes, spelled, enough, shallow => by
    obtain ⟨fuel, rfl⟩ := exists_eq_add_of_le enough (itemTokens_ne_nil close [])
    have spelled : cut.map Token.bare = .mark close :: after := spelled
    obtain ⟨rest, rfl, same⟩ := exists_of_map_bare_eq_cons (by simp) spelled
    exact ⟨[], rest, by simp [parseItems], same, rfl⟩
  | [item], plain, close, fuel, levels, cut, after, closes, spelled, enough, shallow => by
    simp only [Node.itemTokens, Node.levelsAll, List.length_append, List.length_singleton,
      List.append_assoc, List.singleton_append] at spelled enough shallow
    obtain ⟨fuel, rfl⟩ : ∃ left, fuel = left + 2 := ⟨fuel - 2, by omega⟩
    have read := parseNode_tokens item plain.1 fuel levels spelled (follows_cons _ _)
      (by omega) (by omega)
    obtain ⟨src, rest, answered, same, isForm⟩ := read.exists_mark
    have opens : ∀ rest, cut ≠ .mark close :: rest := fun rest =>
      plain.1.ne_mark (by rcases closes with rfl | rfl <;> decide) spelled
    rw [parseItems_eq_parseItem opens,
      parseItem_last (by rcases closes with rfl | rfl <;> decide) answered]
    exact ⟨_, _, rfl, same, congrArg (fun form => [form]) isForm⟩
  | item :: next :: more, plain, close, fuel, levels, cut, after, closes, spelled, enough,
      shallow => by
    rw [Node.levelsAll] at shallow
    simp only [Node.itemTokens, List.length_append, List.length_cons,
      List.append_assoc, List.cons_append] at spelled enough
    obtain ⟨fuel, rfl⟩ : ∃ left, fuel = left + 2 := ⟨fuel - 2, by omega⟩
    have read := parseNode_tokens item plain.1 fuel levels spelled (follows_cons _ _)
      (by omega) (by omega)
    obtain ⟨src, rest, answered, same, isForm⟩ := read.exists_mark
    have others := parseItems_tokens (next :: more) plain.2 fuel levels closes same (by omega)
      (by omega)
    have opens : ∀ rest, cut ≠ .mark close :: rest := fun rest =>
      plain.1.ne_mark (by rcases closes with rfl | rfl <;> decide) spelled
    rw [parseItems_eq_parseItem opens, parseItem_comma answered]
    refine others.map fun srcs areForms => ?_
    rw [Node.recastAll, Node.recastAll, areForms]
    exact congrArg (· :: _) isForm

/-- From the tokens of the entries of a plain map the entries are read. -/
theorem parseEntries_tokens : (entries : List (Tree × Tree)) → Node.PlainEntries entries →
    ∀ (fuel levels : Nat) {cut after : List Token},
      cut.map Token.bare = Node.entryTokens entries ++ after →
      4 * (Node.entryTokens entries).length ≤ fuel → Node.levelsEntries entries ≤ levels →
      Yields (parseEntries fuel levels cut) (Node.recastEntries .number)
        (Node.recastEntries Number.source entries) after
  | [], plain, fuel, levels, cut, after, spelled, enough, shallow => by
    obtain ⟨fuel, rfl⟩ := exists_eq_add_of_le enough (by simp [Node.entryTokens])
    have spelled : cut.map Token.bare = .mark '\x7d' :: after := spelled
    obtain ⟨rest, rfl, same⟩ := exists_of_map_bare_eq_cons (by simp) spelled
    exact ⟨[], rest, by simp [parseEntries], same, rfl⟩
  | [(key, value)], plain, fuel, levels, cut, after, spelled, enough, shallow => by
    simp only [Node.entryTokens, Node.levelsEntries, List.length_append, List.length_cons,
      List.append_assoc, List.cons_append] at spelled enough shallow
    obtain ⟨fuel, rfl⟩ : ∃ left, fuel = left + 1 := ⟨fuel - 1, by omega⟩
    have readKey := parseNode_tokens key plain.1 fuel levels spelled (follows_cons _ _)
      (by omega) (by omega)
    obtain ⟨keySrc, others, keyAnswered, same, isKey⟩ := readKey.exists_mark
    have readValue := parseNode_tokens value plain.2.1 fuel levels same (follows_cons _ _)
      (by omega) (by omega)
    obtain ⟨valueSrc, rest, valueAnswered, sameRest, isValue⟩ := readValue.exists_mark
    have opens : ∀ rest, cut ≠ .mark '\x7d' :: rest := fun rest => plain.1.ne_mark (by decide) spelled
    have isEntry : (keySrc.bare, valueSrc.bare) = (key.source, value.source) := by
      rw [isKey, isValue]
    rw [parseEntries_last opens keyAnswered valueAnswered]
    exact ⟨_, _, rfl, sameRest, congrArg (fun entry => [entry]) isEntry⟩
  | (key, value) :: next :: more, plain, fuel, levels, cut, after, spelled, enough, shallow => by
    rw [Node.levelsEntries] at shallow
    simp only [Node.entryTokens, List.length_append, List.length_cons, List.append_assoc,
      List.cons_append] at spelled enough
    obtain ⟨fuel, rfl⟩ : ∃ left, fuel = left + 1 := ⟨fuel - 1, by omega⟩
    have readKey := parseNode_tokens key plain.1 fuel levels spelled (follows_cons _ _)
      (by omega) (by omega)
    obtain ⟨keySrc, others, keyAnswered, same, isKey⟩ := readKey.exists_mark
    have readValue := parseNode_tokens value plain.2.1 fuel levels same (follows_cons _ _)
      (by omega) (by omega)
    obtain ⟨valueSrc, rest, valueAnswered, sameRest, isValue⟩ := readValue.exists_mark
    have further := parseEntries_tokens (next :: more) plain.2.2 fuel levels sameRest (by omega)
      (by omega)
    have opens : ∀ rest, cut ≠ .mark '\x7d' :: rest := fun rest => plain.1.ne_mark (by decide) spelled
    have isEntry : (keySrc.bare, valueSrc.bare) = (key.source, value.source) := by
      rw [isKey, isValue]
    rw [parseEntries_comma opens keyAnswered valueAnswered]
    refine further.map fun srcs areForms => ?_
    rw [Node.recastEntries, Node.recastEntries, areForms]
    exact congrArg (· :: _) isEntry

/-- From the tokens of the parts of a plain record the parts are read. -/
theorem parseFields_tokens : (fields : List (String × Tree)) → Node.PlainFields fields →
    ∀ (fuel levels : Nat) {cut after : List Token},
      cut.map Token.bare = Node.fieldTokens fields ++ after →
      4 * (Node.fieldTokens fields).length ≤ fuel → Node.levelsFields fields ≤ levels →
      Yields (parseFields fuel levels cut) (Node.recastFields .number)
        (Node.recastFields Number.source fields) after
  | [], plain, fuel, levels, cut, after, spelled, enough, shallow => by
    obtain ⟨fuel, rfl⟩ := exists_eq_add_of_le enough (by simp [Node.fieldTokens])
    have spelled : cut.map Token.bare = .mark ')' :: after := spelled
    obtain ⟨rest, rfl, same⟩ := exists_of_map_bare_eq_cons (by simp) spelled
    exact ⟨[], rest, by simp [parseFields], same, rfl⟩
  | [(name, value)], plain, fuel, levels, cut, after, spelled, enough, shallow => by
    simp only [Node.fieldTokens, Node.levelsFields, List.length_append, List.length_cons,
      List.append_assoc, List.cons_append] at spelled enough shallow
    obtain ⟨fuel, rfl⟩ : ∃ left, fuel = left + 1 := ⟨fuel - 1, by omega⟩
    obtain ⟨colon, rfl, sameColon⟩ := exists_of_map_bare_eq_cons (by simp) spelled
    obtain ⟨others, rfl, same⟩ := exists_of_map_bare_eq_cons (by simp) sameColon
    have read := parseNode_tokens value plain.2.1 fuel levels same (follows_cons _ _)
      (by omega) (by omega)
    obtain ⟨src, rest, answered, sameRest, isForm⟩ := read.exists_mark
    rw [parseFields_last answered]
    exact ⟨_, _, rfl, sameRest, congrArg (fun form => [(name, form)]) isForm⟩
  | (name, value) :: next :: more, plain, fuel, levels, cut, after, spelled, enough, shallow => by
    rw [Node.levelsFields] at shallow
    simp only [Node.fieldTokens, List.length_append, List.length_cons, List.append_assoc,
      List.cons_append] at spelled enough
    obtain ⟨fuel, rfl⟩ : ∃ left, fuel = left + 1 := ⟨fuel - 1, by omega⟩
    obtain ⟨colon, rfl, sameColon⟩ := exists_of_map_bare_eq_cons (by simp) spelled
    obtain ⟨others, rfl, same⟩ := exists_of_map_bare_eq_cons (by simp) sameColon
    have read := parseNode_tokens value plain.2.1 fuel levels same (follows_cons _ _)
      (by omega) (by omega)
    obtain ⟨src, rest, answered, sameRest, isForm⟩ := read.exists_mark
    have further := parseFields_tokens (next :: more) plain.2.2 fuel levels sameRest (by omega)
      (by omega)
    rw [parseFields_comma answered]
    refine further.map fun srcs areForms => ?_
    rw [Node.recastFields, Node.recastFields, areForms]
    exact congrArg (fun form => (name, form) :: _) isForm

end

/-! ## Reading a text -/

/-- A text that does not begin with a hash sign has no attributes. -/
theorem parseAttributes_eq {e : Extensions} {cut : List Token}
    (other : ∀ rest, cut ≠ .mark '#' :: rest) : parseAttributes fuel e cut = some (e, cut) := by
  unfold parseAttributes
  split
  · next same => exact absurd rfl (other _)
  · rfl

/-- From the text of a plain tree the tree is read, if it is not nested too deeply. -/
theorem Document.parse?_render {t : Tree} (plain : t.Plain) (shallow : t.levels ≤ nestingLimit) :
    ∃ src, Document.parse? t.render = some ⟨.plain, src⟩ ∧ src.bare = t.source := by
  have isCut := cut_render t plain (fun c isFirst => by cases isFirst) Cut.nil
  rw [List.append_nil] at isCut
  obtain ⟨cut, found, spelled⟩ := isCut (t.render.length + 1) (by rw [String.length_toList]; omega)
  have noAttribute : ∀ rest, cut ≠ .mark '#' :: rest := fun rest =>
    plain.ne_mark (by decide) spelled
  have enough : 4 * t.tokens.length ≤ 4 * cut.length + 4 := by
    have := congrArg List.length spelled
    simp only [List.length_map, List.append_nil] at this
    omega
  have read := parseNode_tokens t plain _ (nestingLimit + 2) spelled
    (fun token isFirst => by cases isFirst) enough (by omega)
  obtain ⟨src, rest, answered, same, isForm⟩ := read
  obtain rfl : rest = [] := List.map_eq_nil_iff.mp same
  refine ⟨src, ?_, isForm⟩
  simp only [Document.parse?, tokens?, found, parseAttributes_eq noAttribute, answered,
    Option.bind_eq_bind, Option.bind_some]

end Ron

end Stagecraft
