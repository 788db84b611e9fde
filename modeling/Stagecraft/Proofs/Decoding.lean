import Stagecraft.Proofs.Parsing

/-!
# Readers of stored forms

A reader reads a tree as a value if it takes that value from all that can be read of the text of the
tree, as long as there are levels enough and each number of the tree is read back.  What reads the
parts of a tree tells what reads the whole.
-/

namespace Stagecraft

namespace Ron

variable {α β : Type}

/-! ## Numbers of a tree -/

mutual

/-- The numbers of a tree. -/
def Node.numbers {ν : Type} : Node ν → List ν
  | .number value => [value]
  | .list items => Node.numbersAll items
  | .map entries => Node.numbersEntries entries
  | .tuple _ items => Node.numbersAll items
  | .record _ fields => Node.numbersFields fields
  | .marked _ parts => Node.numbersAll parts
  | .present part => part.numbers
  | .word _ | .text _ | .unit | .foreign => []

/-- The numbers of a list of trees. -/
def Node.numbersAll {ν : Type} : List (Node ν) → List ν
  | [] => []
  | item :: rest => item.numbers ++ Node.numbersAll rest

/-- The numbers of the entries of a map. -/
def Node.numbersEntries {ν : Type} : List (Node ν × Node ν) → List ν
  | [] => []
  | (key, value) :: rest => key.numbers ++ value.numbers ++ Node.numbersEntries rest

/-- The numbers of the parts of a record. -/
def Node.numbersFields {ν : Type} : List (String × Node ν) → List ν
  | [] => []
  | (_, value) :: rest => value.numbers ++ Node.numbersFields rest

end

/-- A count fits into its type, and the text of any other number writes that number. -/
def Number.ReadsBack : Number → Prop
  | .natural n => n < 2 ^ 64
  | .single x =>
    (readLiteral? "f32" (Number.text (.single x))).map (·.toSingle) = some x
  | .double x =>
    (readLiteral? "f64" (Number.text (.double x))).map (·.toDouble) = some x

/-- The text of a decoded number, from the characters of its digits. -/
def spelled (f : Decimal.Format) : Decimal.Binary → String
  | .finite negative mantissa exponent =>
    let text := (Decimal.Binary.finite negative mantissa exponent).shortest f
    if '.' ∈ text.toList then text else text ++ ".0"
  | b => b.pointed f

theorem spelled_eq (f : Decimal.Format) (b : Decimal.Binary) : spelled f b = b.pointed f := by
  cases b with
  | finite negative mantissa exponent =>
    simp [spelled, Decimal.Binary.pointed, String.contains_char_eq]
  | _ => rfl

/-- Whether a number is read back is computed from its digits. -/
instance : DecidablePred Number.ReadsBack
  | .natural n => inferInstanceAs (Decidable (n < 2 ^ 64))
  | .single x =>
    decidable_of_iff
      ((readLiteral? "f32" (spelled .single (decodeSingle x))).map (·.toSingle) = some x)
      (by rw [spelled_eq]; rfl)
  | .double x =>
    decidable_of_iff
      ((readLiteral? "f64" (spelled .double (decodeDouble x))).map (·.toDouble) = some x)
      (by rw [spelled_eq]; rfl)

/-! ## Readers of plain values -/

/-- What is read from the text of a tree, with levels enough for the tree. -/
structure Stored (limit : Nat) (src : Source) (t : Tree) : Prop where
  form : src.bare = t.source
  shallow : t.levels ≤ limit
  numbers : ∀ n ∈ t.numbers, n.ReadsBack

/-- A reader takes a value from a tree with no more than the given levels below it. -/
def Reads (bound : Nat) (each : Reader α) (t : Tree) (x : α) : Prop :=
  ∀ limit src, limit ≤ bound → Stored limit src t → each limit src = some x

variable {bound : Nat}

theorem Reads.mono {lower : Nat} {each : Reader α} {t : Tree} {x : α} (reads : Reads bound each t x)
    (low : lower ≤ bound) : Reads lower each t x :=
  fun limit src within stored => reads limit src (Nat.le_trans within low) stored

theorem eq_text_of_bare {src : Source} {value : String} (form : src.bare = .text value) :
    src = .text value := by
  cases src <;> simp_all [Node.bare, Node.recast]

theorem eq_word_of_bare {src : Source} {name : Name} (form : src.bare = .word name) :
    src = .word name := by
  cases src <;> simp_all [Node.bare, Node.recast]

theorem eq_number_of_bare {src : Source} {lexeme : String} (form : src.bare = .number lexeme) :
    src = .number lexeme := by
  cases src <;> simp_all [Node.bare, Node.recast]

theorem Reads.text (s : String) : Reads bound readText (.text s) s := by
  intro limit src _ stored
  rw [eq_text_of_bare stored.form]
  rfl

theorem Reads.bool (b : Bool) : Reads bound readBool (Node.bool b) b := by
  intro limit src _ stored
  rw [eq_word_of_bare stored.form]
  cases b <;> rfl

/-- The lexeme of a number is its text. -/
theorem lexeme?_of_bare {src : Source} {n : Number} (form : src.bare = n.source) :
    lexeme? src = some n.text := by
  unfold Number.source at form
  split at form
  · rw [eq_number_of_bare form]
    rfl
  · rw [eq_word_of_bare form]
    rfl

theorem Reads.single (x : Single) : Reads bound readSingle (.number (.single x)) x := by
  intro limit src _ stored
  have back : Number.ReadsBack (.single x) := stored.numbers _ (List.mem_singleton_self _)
  rw [readSingle, lexeme?_of_bare (n := .single x) stored.form]
  exact back

theorem Reads.double (x : Double) : Reads bound readDouble (.number (.double x)) x := by
  intro limit src _ stored
  have back : Number.ReadsBack (.double x) := stored.numbers _ (List.mem_singleton_self _)
  rw [readDouble, lexeme?_of_bare (n := .double x) stored.form]
  exact back

theorem Reads.count (n : Nat) : Reads bound readCount (.number (.natural n)) n := by
  intro limit src _ stored
  have fits : n < 2 ^ 64 := stored.numbers _ (List.mem_singleton_self _)
  have form : src.bare = Number.source (.natural n) := stored.form
  rw [Number.source, if_pos (show isLexeme (Number.natural n).text = true from isLexeme_digitText n)]
    at form
  rw [eq_number_of_bare form]
  exact readCount_digitText fits limit

/-! ## Options, lists and maps -/

theorem exists_of_bare_eq_marked {src : Source} {parts : List Source}
    (form : src.bare = .marked .single parts) :
    ∃ outline srcs, src = .marked outline srcs ∧ Node.recastAll .number srcs = parts := by
  cases src with
  | marked outline srcs => exact ⟨outline, srcs, rfl, (Node.marked.inj form).2⟩
  | _ => cases form

theorem exists_of_bare_eq_tuple {src : Source} {name : Option Name} {items : List Source}
    (form : src.bare = .tuple name items) :
    ∃ srcs, src = .tuple name srcs ∧ Node.recastAll .number srcs = items := by
  cases src with
  | tuple written srcs =>
    obtain ⟨rfl, same⟩ := Node.tuple.inj form
    exact ⟨srcs, rfl, same⟩
  | _ => cases form

theorem exists_of_bare_eq_list {src : Source} {items : List Source}
    (form : src.bare = .list items) :
    ∃ srcs, src = .list srcs ∧ Node.recastAll .number srcs = items := by
  cases src with
  | list srcs => exact ⟨srcs, rfl, Node.list.inj form⟩
  | _ => cases form

theorem exists_of_bare_eq_map {src : Source} {entries : List (Source × Source)}
    (form : src.bare = .map entries) :
    ∃ srcs, src = .map srcs ∧ Node.recastEntries .number srcs = entries := by
  cases src with
  | map srcs => exact ⟨srcs, rfl, Node.map.inj form⟩
  | _ => cases form

theorem exists_of_recastAll_eq_cons {srcs : List Source} {first : Source} {others : List Source}
    (form : Node.recastAll .number srcs = first :: others) :
    ∃ src rest, srcs = src :: rest ∧ src.bare = first ∧ Node.recastAll .number rest = others := by
  cases srcs with
  | nil => cases form
  | cons src rest =>
    obtain ⟨isFirst, areOthers⟩ := List.cons.inj form
    exact ⟨src, rest, rfl, isFirst, areOthers⟩

theorem recastAll_eq_nil {srcs : List Source} (form : Node.recastAll .number srcs = []) :
    srcs = [] := by
  cases srcs with
  | nil => rfl
  | cons => cases form

theorem Reads.option {each : Reader α} {form : α → Tree} {o : Option α}
    (present : ∀ x, o = some x → Reads (bound - 1) each (form x) x) :
    Reads bound (readOption .plain each) (Node.option form o) o := by
  intro limit src within stored
  cases o with
  | none =>
    rw [eq_word_of_bare stored.form]
    rfl
  | some x =>
    obtain ⟨outline, srcs, rfl, same⟩ := exists_of_bare_eq_marked stored.form
    obtain ⟨part, rest, rfl, isPart, areRest⟩ := exists_of_recastAll_eq_cons same
    obtain rfl := recastAll_eq_nil areRest
    have shallow : max ((form x).levels + 1) 0 ≤ limit := stored.shallow
    obtain ⟨limit, rfl⟩ : ∃ left, limit = left + 1 := ⟨limit - 1, by omega⟩
    have storedPart : Stored limit part (form x) :=
      ⟨isPart, by omega, fun n member => stored.numbers n (List.mem_append_left _ member)⟩
    have read := present x rfl limit part (by omega) storedPart
    simp [readOption, below, read]

theorem Reads.optionRecord {each : Reader α} {form : α → Tree} {o : Option α} (name : String)
    (present : ∀ x, o = some x → Reads (bound - 1) each (form x) x) :
    Reads bound (readOptionRecord .plain name each) (Node.option form o) o := by
  intro limit src within stored
  have read := Reads.option present limit src within stored
  cases o with
  | none =>
    obtain rfl := eq_word_of_bare stored.form
    exact read
  | some x =>
    obtain ⟨outline, srcs, rfl, same⟩ := exists_of_bare_eq_marked stored.form
    exact read

theorem Reads.list {each : Reader α} {form : α → Tree} (xs : List α)
    (members : ∀ x ∈ xs, Reads (bound - 2) each (form x) x) :
    Reads bound (readList each) (.list (xs.map form)) xs := by
  intro limit src within stored
  obtain ⟨srcs, rfl, same⟩ := exists_of_bare_eq_list stored.form
  have shallow : Node.levelsAll (xs.map form) + 1 ≤ limit := stored.shallow
  have numbers : ∀ n ∈ Node.numbersAll (xs.map form), n.ReadsBack := stored.numbers
  obtain ⟨limit, rfl⟩ : ∃ left, limit = left + 1 := ⟨limit - 1, by omega⟩
  simp only [readList, below]
  clear stored
  induction xs generalizing srcs with
  | nil =>
    obtain rfl := recastAll_eq_nil same
    rfl
  | cons x xs ih =>
    obtain ⟨src, rest, rfl, isFirst, areOthers⟩ := exists_of_recastAll_eq_cons same
    simp only [List.map_cons, Node.levelsAll] at shallow
    simp only [List.map_cons, Node.numbersAll, List.mem_append] at numbers
    have storedFirst : Stored (limit - 1) src (form x) :=
      ⟨isFirst, by omega, fun n member => numbers n (.inl member)⟩
    have read := members x (List.mem_cons_self ..) (limit - 1) src (by omega) storedFirst
    have others := ih (fun x member => members x (List.mem_cons_of_mem _ member)) rest areOthers
      (fun n member => numbers n (.inr member)) (by omega)
    obtain ⟨limit, rfl⟩ : ∃ left, limit = left + 1 := ⟨limit - 1, by omega⟩
    simp only [Nat.add_sub_cancel] at read
    simp only [List.mapM_cons, others, read, Option.bind_eq_bind, Option.bind_some]
    rfl

theorem Reads.map {each : Reader α} {form : α → Tree} (entries : List (String × α))
    (values : ∀ entry ∈ entries, Reads (bound - 2) each (form entry.2) entry.2) :
    Reads bound (readMap each)
      (.map (entries.map fun entry => (.text entry.1, form entry.2))) entries := by
  intro limit src within stored
  obtain ⟨srcs, rfl, same⟩ := exists_of_bare_eq_map stored.form
  have shallow : Node.levelsEntries (entries.map fun entry => (.text entry.1, form entry.2)) + 1 ≤
      limit := stored.shallow
  have numbers : ∀ n ∈ Node.numbersEntries (entries.map fun entry =>
      (.text entry.1, form entry.2)), n.ReadsBack := stored.numbers
  obtain ⟨limit, rfl⟩ : ∃ left, limit = left + 1 := ⟨limit - 1, by omega⟩
  simp only [readMap, below]
  clear stored
  induction entries generalizing srcs with
  | nil =>
    cases srcs with
    | nil => rfl
    | cons => cases same
  | cons entry entries ih =>
    obtain ⟨key, value⟩ := entry
    cases srcs with
    | nil => cases same
    | cons first rest =>
      obtain ⟨keySrc, valueSrc⟩ := first
      obtain ⟨isFirst, areOthers⟩ := List.cons.inj same
      obtain ⟨isKey, isValue⟩ := Prod.mk.inj isFirst
      obtain rfl := eq_text_of_bare isKey
      simp only [List.map_cons, Node.levelsEntries] at shallow
      simp only [List.map_cons, Node.numbersEntries, List.mem_append] at numbers
      have storedValue : Stored (limit - 1) valueSrc (form value) :=
        ⟨isValue, by omega, fun n member => numbers n (.inl (.inr member))⟩
      have read := values (key, value) (List.mem_cons_self ..) (limit - 1) valueSrc (by omega)
        storedValue
      have others := ih (fun entry member => values entry (List.mem_cons_of_mem _ member)) rest
        areOthers (fun n member => numbers n (.inr member)) (by omega)
      obtain ⟨limit, rfl⟩ : ∃ left, limit = left + 1 := ⟨limit - 1, by omega⟩
      simp only [Nat.add_sub_cancel] at read
      have keyRead : readText limit (.text key) = some key := rfl
      rw [List.mapM_cons, others]
      simp only [read, keyRead, Option.bind_eq_bind, Option.bind_some]
      rfl

/-- What is made of a value that is read. -/
theorem Reads.andThen {each : Reader α} {t : Tree} {x : α} (reads : Reads bound each t x)
    (change : α → β) : Reads bound (fun limit src => (each limit src).map change) t (change x) :=
  fun limit src within stored => congrArg (Option.map change) (reads limit src within stored)

/-! ## Records -/

/-- The parts that have been taken from a record hold what its fields were written from. -/
def Fields.Holds (f : Fields) (fields : List (String × Tree)) : Prop :=
  ∀ name t, fields.lookup name = some t →
    ∃ src, f.entries.lookup name = some src ∧ Stored f.limit src t

theorem Fields.Holds.required {f : Fields} {fields : List (String × Tree)} (holds : f.Holds fields)
    (within : f.limit ≤ bound) (name : String) {t : Tree} {each : Reader α} {x : α}
    (reads : Reads bound each t x) (isField : fields.lookup name = some t) :
    f.required name each = some x := by
  obtain ⟨src, found, stored⟩ := holds name t isField
  simp [Fields.required, found, reads f.limit src within stored]

theorem Fields.Holds.withDefault {f : Fields} {fields : List (String × Tree)}
    (holds : f.Holds fields) (within : f.limit ≤ bound) (name : String) {t : Tree}
    {each : Reader α} (standard : α) {x : α} (reads : Reads bound each t x)
    (isField : fields.lookup name = some t) : f.withDefault name each standard = some x := by
  obtain ⟨src, found, stored⟩ := holds name t isField
  simp [Fields.withDefault, found, reads f.limit src within stored]

/-- Names that are all different are kept as they are. -/
theorem eraseDups_eq_self {names : List String} (distinct : names.Nodup) :
    names.eraseDups = names := by
  induction names with
  | nil => rfl
  | cons name names ih =>
    obtain ⟨isNew, distinct⟩ := List.nodup_cons.mp distinct
    have kept : names.filter (fun other => !other == name) = names :=
      List.filter_eq_self.mpr fun other member => by
        simp only [Bool.not_eq_true', beq_eq_false_iff_ne]
        rintro rfl
        exact isNew member
    rw [List.eraseDups_cons, kept, ih distinct]

/-- If all parts of a record are asked for, they are all taken. -/
theorem Fields.ofEntries?_eq {known : List String} {limit : Nat} {entries : List (String × Source)}
    (names : entries.map (·.1) = known) (distinct : known.Nodup) (room : 0 < limit) :
    Fields.ofEntries? .plain known limit entries = some ⟨limit - 1, entries⟩ := by
  have all : ∀ entry ∈ entries, entry.1 ∈ known := by
    intro entry member
    rw [← names]
    exact List.mem_map_of_mem member
  have asked : entries.filter (fun entry => known.contains entry.1) = entries :=
    List.filter_eq_self.mpr fun entry member => List.contains_iff_mem.mpr (all entry member)
  have ignored : entries.filter (not ∘ fun entry => known.contains entry.1) = [] :=
    List.filter_eq_nil_iff.mpr fun entry member => by simpa using all entry member
  unfold Fields.ofEntries?
  rw [List.partition_eq_filter_filter, asked, ignored]
  simp only [names, eraseDups_eq_self distinct]
  rw [if_pos ⟨rfl, by rw [← names, List.length_map], fun isZero => by omega⟩]

/-- What is read of the parts of a record. -/
theorem holds_of_recastFields {fields : List (String × Tree)} {entries : List (String × Source)}
    (limit : Nat) (same : Node.recastFields .number entries =
      Node.recastFields Number.source fields) (shallow : Node.levelsFields fields ≤ limit + 1)
    (numbers : ∀ n ∈ Node.numbersFields fields, n.ReadsBack) :
    entries.map (·.1) = fields.map (·.1) ∧ Fields.Holds ⟨limit, entries⟩ fields := by
  induction fields generalizing entries with
  | nil =>
    cases entries with
    | nil => exact ⟨rfl, fun name t isField => by cases isField⟩
    | cons => cases same
  | cons field fields ih =>
    cases entries with
    | nil => cases same
    | cons entry entries =>
      obtain ⟨fieldName, t⟩ := field
      obtain ⟨entryName, src⟩ := entry
      obtain ⟨sameFirst, sameOthers⟩ := List.cons.inj same
      obtain ⟨rfl, form⟩ := Prod.mk.inj sameFirst
      rw [Node.levelsFields] at shallow
      simp only [Node.numbersFields, List.mem_append] at numbers
      obtain ⟨names, holds⟩ := ih sameOthers (by omega) fun n member => numbers n (.inr member)
      refine ⟨by rw [List.map_cons, List.map_cons, names], fun name other isField => ?_⟩
      cases same : name == entryName with
      | true =>
        rw [List.lookup_cons, same] at isField
        obtain rfl := Option.some.inj isField
        refine ⟨src, by rw [List.lookup_cons, same], form, ?_, fun n member => numbers n (.inl member)⟩
        have : t.levels + 1 ≤ limit + 1 := Nat.le_trans (Nat.le_max_left ..) shallow
        exact Nat.le_of_succ_le_succ this
      | false =>
        rw [List.lookup_cons, same] at isField
        obtain ⟨found, isFound, stored⟩ := holds name other isField
        exact ⟨found, by rw [List.lookup_cons, same]; exact isFound, stored⟩

theorem levelsFields_pos {fields : List (String × Tree)} (filled : fields ≠ []) :
    0 < Node.levelsFields fields := by
  cases fields with
  | nil => exact absurd rfl filled
  | cons field fields =>
    rw [Node.levelsFields]
    omega

theorem exists_of_bare_eq_record {src : Source} {name : Option Name}
    {fields : List (String × Source)} (form : src.bare = .record name fields) :
    ∃ entries, src = .record name entries ∧ Node.recastFields .number entries = fields := by
  cases src with
  | record written entries =>
    obtain ⟨rfl, same⟩ := Node.record.inj form
    exact ⟨entries, rfl, same⟩
  | _ => cases form

/-- A record without a name is read from its fields. -/
theorem Reads.record {name : String} {known : List String} {build : Fields → Option α}
    {fields : List (String × Tree)} {x : α} (names : fields.map (·.1) = known)
    (distinct : known.Nodup) (filled : fields ≠ [])
    (built : ∀ f : Fields, f.limit ≤ bound - 2 → f.Holds fields → build f = some x) :
    Reads bound (readRecord .plain name known build) (.struct fields) x := by
  intro limit src within stored
  obtain ⟨entries, rfl, same⟩ := exists_of_bare_eq_record stored.form
  have shallow : Node.levelsFields fields + 1 ≤ limit := stored.shallow
  have deep := levelsFields_pos filled
  obtain ⟨limit, rfl⟩ : ∃ left, limit = left + 2 := ⟨limit - 2, by omega⟩
  obtain ⟨sameNames, holds⟩ := holds_of_recastFields limit same (by omega) stored.numbers
  have taken := Fields.ofEntries?_eq (sameNames.trans names) distinct (Nat.succ_pos limit)
  simp only [readRecord, below, taken]
  simpa [Extensions.plain] using built ⟨limit, entries⟩ (by simp; omega) holds

/-! ## Variants -/

/-- A variant is read from its fields. -/
theorem Reads.variantFields {name : String} {known : List String} {parts : Fields → Option α}
    {build : Nat → VariantForm → Option α} {fields : List (String × Tree)} {x : α}
    (isParts : ∀ limit entries,
      build limit (.fields name entries) = readParts .plain limit entries known parts)
    (names : fields.map (·.1) = known) (distinct : known.Nodup) (filled : fields ≠ [])
    (built : ∀ f : Fields, f.limit ≤ bound - 3 → f.Holds fields → parts f = some x) :
    Reads bound (readVariant build) (.structVariant name fields) x := by
  intro limit src within stored
  obtain ⟨entries, rfl, same⟩ := exists_of_bare_eq_record stored.form
  have shallow : Node.levelsFields fields + 2 ≤ limit := stored.shallow
  have deep := levelsFields_pos filled
  obtain ⟨limit, rfl⟩ : ∃ left, limit = left + 3 := ⟨limit - 3, by omega⟩
  obtain ⟨sameNames, holds⟩ := holds_of_recastFields limit same (by omega) stored.numbers
  have taken := Fields.ofEntries?_eq (sameNames.trans names) distinct (Nat.succ_pos limit)
  simp only [readVariant, below, variantForm?, Option.bind_some, isParts, readParts, taken]
  simpa using built ⟨limit, entries⟩ (by simp; omega) holds

/-- A variant is read from its one part. -/
theorem Reads.variantPart {name : String} {build : Nat → VariantForm → Option α}
    {each : Reader β} {wrap : β → α} {t : Tree} {y : β}
    (isPart : ∀ limit part,
      build limit (.single name part) = (readPart limit each part).map wrap)
    (reads : Reads (bound - 2) each t y) :
    Reads bound (readVariant build) (.variant name t) (wrap y) := by
  intro limit src within stored
  obtain ⟨srcs, rfl, same⟩ := exists_of_bare_eq_tuple stored.form
  obtain ⟨part, rest, rfl, isForm, areRest⟩ := exists_of_recastAll_eq_cons same
  obtain rfl := recastAll_eq_nil areRest
  have shallow : max (t.levels + 1) 0 + 1 ≤ limit := stored.shallow
  obtain ⟨limit, rfl⟩ : ∃ left, limit = left + 2 := ⟨limit - 2, by omega⟩
  have storedPart : Stored limit part t :=
    ⟨isForm, by omega, fun n member => stored.numbers n (List.mem_append_left _ member)⟩
  have read := reads limit part (by omega) storedPart
  simp [readVariant, below, variantForm?, isPart, readPart, read]

/-- A variant is read from its name. -/
theorem Reads.variantWord {name : String} {build : Nat → VariantForm → Option α} {x : α}
    (isWord : ∀ limit, build limit (.plain name) = some x)
    (noValue : (Name.plain name).isValue = false) :
    Reads bound (readVariant build) (.word (.plain name)) x := by
  intro limit src within stored
  obtain rfl := eq_word_of_bare stored.form
  have shallow : Node.levels (.word (.plain name) : Tree) ≤ limit := stored.shallow
  rw [Node.levels, noValue] at shallow
  obtain ⟨limit, rfl⟩ : ∃ left, limit = left + 2 := ⟨limit - 2, by simp at shallow; omega⟩
  simp [readVariant, below, variantForm?, isWord]

/-- A reader with fuel for levels is only asked for what has levels. -/
theorem Reads.of_succ {each : Nat → Reader α} {fuel : Nat} {t : Tree} {x : α} (deep : 0 < t.levels)
    (reads : ∀ less < fuel, Reads (less + 1) (each (less + 1)) t x) :
    Reads fuel (each fuel) t x := by
  cases fuel with
  | zero =>
    intro limit src within stored
    have := stored.shallow
    omega
  | succ less => exact reads less (Nat.lt_succ_self less)

end Ron

end Stagecraft
