import Stagecraft.Console.Command
import Stagecraft.Proofs.Inspection

/-!
# Slots that can be typed

The player names a slot by a word, and the file of the slot carries the word in front of a marker
and the version.  The marker and the ending of a file's name are looked for from its end, so that
the slot is read back whatever the word is.  A word with a slash in it is no name of a file, though:
the file of such a slot lies outside the folder, where the list of saved games does not look.
-/

namespace Stagecraft

/-! ## Words -/

namespace Text

/-- A text without breaks is a word. -/
theorem wordsFrom_of_clean {isBreak : Char → Bool} {text : List Char}
    (clean : ∀ c ∈ text, isBreak c = false) (word : List Char) (filled : word ++ text ≠ []) :
    wordsFrom isBreak word text = [word.reverse ++ text] := by
  induction text generalizing word with
  | nil => simp_all [wordsFrom]
  | cons c rest ih =>
    simp only [List.forall_mem_cons] at clean
    simp [wordsFrom, clean.1, ih clean.2]

/-- A text that begins with its last marker is cut at that one behind any other text, too. -/
theorem splitLast?_append {marker rest after : List Char} (before : List Char)
    (last : splitLast? marker rest = some ([], after)) :
    splitLast? marker (before ++ rest) = some (before, after) := by
  induction before with
  | nil => exact last
  | cons c before ih => simp [splitLast?, ih]

end Text

namespace Command

theorem ofWords?_eq_save_iff (words : List String) (slot : String) :
    ofWords? words = some (.save slot) ↔ words = ["save", slot] := by
  constructor
  · intro given
    unfold ofWords? at given
    split at given
    all_goals first
      | cases given <;> rfl
      | exact absurd given (by simp)
  · rintro rfl
    rfl

/-- The slots that can be typed are the words without blanks. -/
theorem exists_parse_eq_save_iff (slot : String) :
    (∃ line, parse line = .save slot) ↔
      slot ≠ "" ∧ ∀ c ∈ slot.toList, Text.isBlank c = false := by
  constructor
  · rintro ⟨line, typed⟩
    have given : Text.words line = ["save", slot] := by
      rw [← ofWords?_eq_save_iff]
      unfold parse at typed
      cases given : ofWords? (Text.words line) with
      | none => simp [given] at typed
      | some command => simpa [given] using typed
    have inLine : slot ∈ Text.words line := by simp [given]
    obtain ⟨word, member, rfl⟩ := List.mem_map.mp inLine
    simpa using Text.wordsFrom_sound Text.isBlank [] line.toList (by simp) word member
  · rintro ⟨filled, clean⟩
    refine ⟨"save " ++ slot, ?_⟩
    have given : Text.words ("save " ++ slot) = ["save", slot] := by
      have last := Text.wordsFrom_of_clean clean [] (by simpa using filled)
      have cut : Text.wordsFrom Text.isBlank [] ("save " ++ slot).toList =
          ['s', 'a', 'v', 'e'] :: Text.wordsFrom Text.isBlank [] slot.toList := by
        rw [String.toList_append]
        rfl
      unfold Text.words Text.wordsAt
      rw [cut, last]
      simp
    unfold parse
    rw [given]
    rfl

end Command

/-! ## Names of files -/

namespace Path

/-- Whether a text is the name of one file or folder in another: it is not empty, does not stand for
the folder or the one above, and has no slash. -/
structure IsName (name : String) : Prop where
  filled : name ≠ ""
  notHere : name ≠ "."
  notAbove : name ≠ ".."
  noSlash : '/' ∉ name.toList

/-- A name does not start at the root. -/
theorem IsName.isAbsolute {name : String} (named : IsName name) : isAbsolute name = false := by
  unfold Path.isAbsolute
  cases chars : name.toList with
  | nil => rfl
  | cons c rest =>
    have notFirst : c ≠ '/' := by
      rintro rfl
      exact named.noSlash (chars ▸ List.mem_cons_self ..)
    simpa using notFirst

/-- The path of something in a folder begins with that of the folder. -/
theorem exists_toList_join {folder name : String} (named : IsName name) (filled : folder ≠ "") :
    ∃ rest, (join folder name).toList = folder.toList ++ rest := by
  unfold join
  rw [if_neg (by simp [named.isAbsolute, filled])]
  split
  · exact ⟨name.toList, by simp⟩
  · exact ⟨'/' :: name.toList, by simp⟩

end Path

namespace Save.Slot

theorem toList_fileName (s : Slot) :
    s.fileName.toList =
      (s.name.toList ++ (marker.toList ++ s.version.toList)) ++ '.' :: ending.toList := by
  simp only [fileName, String.toList_append, List.append_assoc]
  rfl

/-- The name of a slot is read from the name of its file. -/
theorem ofFileName?_current {name : String} (named : name ≠ "") :
    ofFileName? (current name).fileName = some (current name) := by
  have atPoint : Text.splitLast? ['.'] (current name).fileName.toList =
      some (name.toList ++ (marker.toList ++ Stagecraft.version.toList), ending.toList) := by
    rw [toList_fileName]
    exact Text.splitLast?_append _ (by decide)
  have atMarker : Text.splitLast? marker.toList
      (name.toList ++ (marker.toList ++ Stagecraft.version.toList)) =
        some (name.toList, Stagecraft.version.toList) :=
    Text.splitLast?_append _ (by decide)
  have filled : name.toList ≠ [] := by simpa using named
  unfold ofFileName?
  rw [atPoint]
  simp [atMarker, filled]
  rfl

/-- The file of a slot lies in the folder exactly if the slot has no slash. -/
theorem isName_fileName_iff (name : String) :
    Path.IsName (current name).fileName ↔ '/' ∉ name.toList := by
  have chars : (current name).fileName.toList =
      (name.toList ++ (marker.toList ++ Stagecraft.version.toList)) ++ '.' :: ending.toList :=
    toList_fileName (current name)
  have long : 3 ≤ (current name).fileName.toList.length := by
    rw [chars]
    simp [ending]
    omega
  constructor
  · intro named slash
    exact named.noSlash (by simp [chars, slash])
  · intro plain
    have short : ∀ text : String, text.toList.length < 3 → (current name).fileName ≠ text := by
      rintro text few rfl
      omega
    refine ⟨short _ (by decide), short _ (by decide), short _ (by decide), ?_⟩
    have fixed : '/' ∉ marker.toList ++ Stagecraft.version.toList ++ '.' :: ending.toList := by
      decide
    rw [chars, List.append_assoc]
    simpa [plain] using fixed

end Save.Slot

/-! ## Files in folders -/

namespace Disk

variable {d : Disk} {folder name : String} {place : Place}

/-- A part without a slash is one part. -/
theorem splitParts_of_noSlash {text : List Char} (plain : '/' ∉ text) (part : List Char) :
    splitParts part text = [String.ofList (part.reverse ++ text)] := by
  induction text generalizing part with
  | nil => simp [splitParts]
  | cons c rest ih =>
    obtain ⟨other, plain⟩ := not_or.mp (mt List.mem_cons.mpr plain)
    simp [splitParts, ih plain, Ne.symm other]

/-- A slash ends a part. -/
theorem splitParts_append_slash (text rest part : List Char) :
    splitParts part (text ++ '/' :: rest) = splitParts part text ++ splitParts [] rest := by
  induction text generalizing part with
  | nil => simp [splitParts]
  | cons c text ih =>
    simp only [splitParts, List.cons_append]
    split <;> simp [ih]

/-- The path of something in a folder has the parts of the folder and then the name. -/
theorem splitParts_join (named : Path.IsName name) (filled : folder ≠ "") :
    ∃ parts, splitParts [] (Path.join folder name).toList = parts ++ [name] ∧
      (splitParts [] folder.toList = parts ∨ splitParts [] folder.toList = parts ++ [""]) := by
  have last : splitParts [] name.toList = [name] := by
    simp [splitParts_of_noSlash named.noSlash]
  unfold Path.join
  rw [if_neg (by simp [named.isAbsolute, filled])]
  split
  · next slash =>
    obtain ⟨front, whole⟩ := List.getLast?_eq_some_iff.mp slash
    refine ⟨splitParts [] front, ?_, .inr ?_⟩
    · rw [String.toList_append, whole, List.append_assoc, List.singleton_append,
        splitParts_append_slash, last]
    · rw [whole, splitParts_append_slash]
      rfl
  · refine ⟨splitParts [] folder.toList, ?_, .inl rfl⟩
    rw [String.toList_append, String.toList_append, List.append_assoc]
    exact (splitParts_append_slash ..).trans (congrArg _ last)

/-- A path is followed by following its beginning and then the rest of it. -/
theorem follow_append (d : Disk) (start : Place) (first second : List String) :
    d.follow start (first ++ second) = (d.follow start first).bind (d.follow · second) := by
  induction first generalizing start with
  | nil => rfl
  | cons part rest ih =>
    simp only [List.cons_append, follow]
    split
    · rfl
    · rfl
    · split
      · exact ih start
      · split
        · exact ih (above start)
        · split
          · rfl
          · exact ih (start ++ [part])

/-- A name leads from a folder into it. -/
theorem isFolder_of_follow_name (named : Path.IsName name) {start : Place}
    (leads : d.follow start [name] = .ok place) :
    (∃ time, d.item? start = some (.folder time)) ∧ place = start ++ [name] := by
  simp only [follow] at leads
  split at leads
  · cases leads
  · cases leads
  · next time isFolder =>
    rw [if_neg (by simp [named.filled, named.notHere]), if_neg named.notAbove] at leads
    split at leads
    · cases leads
    · cases leads
      exact ⟨⟨time, isFolder⟩, rfl⟩

/-- What a path to something in a folder leads to lies in the place of that folder. -/
theorem exists_locate_of_locate_join (named : Path.IsName name) (filled : folder ≠ "")
    (located : d.locate (Path.join folder name) = .ok place) :
    ∃ inside time, d.locate folder = .ok inside ∧ d.item? inside = some (.folder time) ∧
      place = inside ++ [name] := by
  obtain ⟨rest, whole⟩ := Path.exists_toList_join named filled
  obtain ⟨parts, split, folderParts⟩ := splitParts_join named filled
  have sameStart : Path.isAbsolute (Path.join folder name) = Path.isAbsolute folder := by
    have some : folder.toList ≠ [] := by simpa using filled
    simp [Path.isAbsolute, whole, List.head?_append_of_ne_nil _ some]
  unfold locate at located
  split at located
  · cases located
  split at located
  · cases located
  next clean =>
  have cleanFolder : ¬ folder.toList.contains '\x00' := by
    intro inFolder
    exact clean (by simp_all)
  rw [split, sameStart, follow_append] at located
  cases leads : d.follow (if Path.isAbsolute folder then ["/"] else []) parts with
  | error e =>
    rw [leads] at located
    cases located
  | ok inside =>
    rw [leads] at located
    obtain ⟨⟨time, isFolder⟩, rfl⟩ := isFolder_of_follow_name named located
    refine ⟨inside, time, ?_, isFolder, rfl⟩
    unfold locate
    rw [if_neg (by simpa using filled), if_neg cleanFolder]
    rcases folderParts with same | same
    · rw [same, leads]
    · rw [same, follow_append, leads]
      simp [Except.bind, follow, isFolder]

/-- The listing of a folder names what lies in the place that its path leads to. -/
theorem list_of_find {path : String} {time : Int}
    (found : d.find path = .ok (place, .folder time)) :
    d.list path = .ok (d.items.filterMap fun (inner, item) =>
      if above inner = place then
        inner.getLast?.map fun name => ⟨name, item.kind, some item.modified⟩
      else none) := by
  simp only [list, found]

/-- A file that has been put into a folder is in the listing of that folder. -/
theorem exists_list_put (text : String) (time : Int) (named : Path.IsName name)
    (filled : folder ≠ "") (located : d.locate (Path.join folder name) = .ok place)
    (noFolder : ∀ time, d.item? place ≠ some (.folder time)) :
    (d.put place (.file (some text) time)).tick.kind? folder = some .folder ∧
      ∃ entries, (d.put place (.file (some text) time)).tick.list folder = .ok entries ∧
        ⟨name, .file, some time⟩ ∈ entries := by
  obtain ⟨inside, folderTime, locatedFolder, isFolder, rfl⟩ :=
    exists_locate_of_locate_join named filled located
  have found : (d.put (inside ++ [name]) (.file (some text) time)).tick.find folder =
      .ok (inside, .folder folderTime) := by
    have same : (d.put (inside ++ [name]) (.file (some text) time)).tick.locate folder =
        .ok inside :=
      locate_of_folders (fun _ _ => item?_put_of_folder noFolder) locatedFolder
    have still : (d.put (inside ++ [name]) (.file (some text) time)).tick.item? inside =
        some (.folder folderTime) := item?_put_of_folder noFolder isFolder
    simp only [find, same, still]
  have isAbove : above (inside ++ [name]) = inside := by
    have notRoot : inside ++ [name] ≠ ["/"] := by
      intro root
      have last := congrArg List.getLast? root
      simp only [List.getLast?_append, List.getLast?_singleton, Option.some_or,
        Option.some.injEq] at last
      exact named.noSlash (by simp [last])
    simp [above, notRoot]
  constructor
  · simp [kind?, found, DiskItem.kind]
  · refine ⟨_, list_of_find found, List.mem_filterMap.mpr
      ⟨(inside ++ [name], .file (some text) time), ?_, ?_⟩⟩
    · simp [tick, put]
    · simp [isAbove, DiskItem.kind, DiskItem.modified]

end Disk

/-! ## Saved games are found again -/

namespace Save

variable {folder slot path : String} {disk disk' : Disk}

/-- Whether a saved game is among the slots of a folder and in the list of saved games. -/
def Found.Listed (found : Found) (folder : String) (disk : Disk) : Prop :=
  (∃ all, slots (m := StateM Disk) folder disk = (.ok all, disk) ∧ found ∈ all) ∧
    ∃ listed, entries (m := StateM Disk) folder disk = (.ok listed, disk) ∧
      ∃ entry ∈ listed, entry.found = found

/-- A saved game that the listing of its folder names is listed. -/
theorem Found.listed_of_list {found : Found} {lines : List FolderEntry} {line : FolderEntry}
    (isFolder : disk.kind? folder = some .folder) (lists : disk.list folder = .ok lines)
    (inLines : line ∈ lines) (named : ofEntry? folder line = some found) :
    found.Listed folder disk := by
  have all := slots_eq folder disk
  rw [isFolder, lists] at all
  have inAll : found ∈ (lines.filterMap (Found.ofEntry? folder)).mergeSort fun a b =>
      a.slot.le b.slot :=
    List.mem_mergeSort.mpr (List.mem_filterMap.mpr ⟨line, inLines, named⟩)
  refine ⟨⟨_, all, inAll⟩, ?_⟩
  have listed := entries_eq folder disk
  rw [all] at listed
  refine ⟨_, listed, ⟨found, Save.inspect (disk.readText found.path)⟩, ?_, rfl⟩
  exact List.mem_mergeSort.mpr (List.mem_map.mpr ⟨found, inAll, rfl⟩)

/-- Looking for a slot finds the file of the present version, if there is one. -/
theorem find?_of_kind? (isFile : disk.kind? (pathOf folder slot) = some .file) :
    find? (m := StateM Disk) folder slot disk = (.ok (some (pathOf folder slot)), disk) := by
  have asked : Storage.kind? (m := StateM Disk) (pathOf folder slot) disk = (some .file, disk) :=
    congrArg (·, disk) isFile
  unfold find?
  rw [stepped, asked]
  rfl

/-- Looking for a slot under which a game has been saved finds the file that was written.  If the
name of the slot has no slash, that file lies in the folder itself, and its name tells the slot and
the present version; so whoever lists the folder is shown the slot, as long as the folder has a name
at all. -/
theorem recovered_of_save {line : String} {w : World} (typed : Command.parse line = .save slot)
    (saved : save (m := StateM Disk) w folder slot disk = (.ok path, disk')) :
    find? (m := StateM Disk) folder slot disk' = (.ok (some path), disk') ∧
      ('/' ∉ slot.toList →
        ∃ file, Path.IsName file ∧ path = Path.join folder file ∧
          Slot.ofFileName? file = some (Slot.current slot) ∧
          (folder ≠ "" → ∃ modified,
            Found.Listed ⟨Slot.current slot, path, file, modified⟩ folder disk')) := by
  have filled : slot ≠ "" := ((Command.exists_parse_eq_save_iff slot).mp ⟨line, typed⟩).1
  have recognised := Slot.ofFileName?_current filled
  obtain ⟨rfl, created, written⟩ := exists_writeText_of_save saved
  obtain ⟨place, located, noFolder, rfl⟩ := Disk.exists_put_of_writeText written
  constructor
  · have isFile : (created.put place (.file (some w.toTree.render) created.clock)).tick.kind?
        (pathOf folder slot) = some .file := by
      simp only [Disk.kind?, Disk.find_put located noFolder, DiskItem.kind]
    exact find?_of_kind? isFile
  · intro plain
    have named := (Slot.isName_fileName_iff slot).mpr plain
    refine ⟨_, named, rfl, recognised, fun hasName => ?_⟩
    obtain ⟨isFolder, lines, lists, inLines⟩ :=
      Disk.exists_list_put w.toTree.render created.clock named hasName located noFolder
    refine ⟨some created.clock, Found.listed_of_list isFolder lists inLines ?_⟩
    simp [Found.ofEntry?, recognised, pathOf]

/-- The folder for the saved games of a world has a name. -/
theorem folderOf_ne_empty (root : String) (w : World) : folderOf root w ≠ "" := by
  have named : folderName w.title ≠ "" := by
    simp only [folderName]
    split
    · decide
    · next filled => simpa using filled
  unfold folderOf Path.join
  split
  · exact named
  · split <;> simp [named]

/-- A slot whose name holds the marker and dots is found again. -/
theorem landing_recovered :
    ∃ path disk, save (m := StateM Disk) .landing (folderOf "saves" .landing) "a-tableau-b.c"
        (.empty 0) = (.ok path, disk) ∧
      ∃ file modified, Found.Listed ⟨Slot.current "a-tableau-b.c", path, file, modified⟩
        (folderOf "saves" .landing) disk := by
  have typed : Command.parse "save a-tableau-b.c" = .save "a-tableau-b.c" := rfl
  have saved : save (m := StateM Disk) .landing (folderOf "saves" .landing) "a-tableau-b.c"
      (.empty 0) = (.ok "saves/landing/a-tableau-b.c-tableau-0.1.0.ron", _) := rfl
  obtain ⟨file, -, -, -, listed⟩ := (recovered_of_save typed saved).2 (by decide)
  obtain ⟨modified, shown⟩ := listed (folderOf_ne_empty "saves" .landing)
  exact ⟨_, _, saved, file, modified, shown⟩

/-- The game that is saved under a name with a slash is not in the list of the folder. -/
theorem landing_missing :
    Command.parse "save ../up" = .save "../up" ∧
      ∃ path disk, save (m := StateM Disk) .landing (folderOf "saves" .landing) "../up"
        (.empty 0) = (.ok path, disk) ∧
      slots (m := StateM Disk) (folderOf "saves" .landing) disk = (.ok [], disk) := by
  have saved : save (m := StateM Disk) .landing (folderOf "saves" .landing) "../up"
      (.empty 0) = (.ok "saves/landing/../up-tableau-0.1.0.ron", _) := rfl
  have empty : ∀ d : Disk, d.kind? "saves/landing" = some .folder →
      d.list "saves/landing" = .ok [] →
        slots (m := StateM Disk) "saves/landing" d = (.ok [], d) := by
    intro d isFolder lists
    simp [slots_eq, isFolder, lists]
  exact ⟨rfl, _, _, saved, empty _ rfl rfl⟩

end Save

end Stagecraft
