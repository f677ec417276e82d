import EventPipeline.Proofs.FileTree.Directory
import EventPipeline.Proofs.Store.Slot

/-!
# The file of a key

A text that is not empty and has no slash names a slot, and different ones name files of different
names (`path_eq_ok_iff`, `fileName_injective`). No draft has one of these names.

What an operation does to the slot of a key is determined by what stands at the place of its file:
nothing, or a file with a text.
-/

namespace EventPipeline.SlotFile

/-! ## Names of files -/

/-- Whether a text names a slot in a directory. -/
def IsKey (key : Text) : Prop :=
  key ≠ [] ∧ '/' ∉ key

instance (key : Text) : Decidable (IsKey key) :=
  inferInstanceAs (Decidable (key ≠ [] ∧ '/' ∉ key))

/-- The name of the file of a key. -/
def fileName (key : Text) : Text :=
  key ++ ".json".toList

/-- Different keys have files of different names. -/
lemma fileName_injective : Function.Injective fileName :=
  fun _ _ h => List.append_cancel_right h

/-- A name of more than two characters is one for what stands in a directory, if it has no slash. -/
lemma isName_of_length {name : Text} (hlength : 2 < name.length) (hslash : '/' ∉ name) :
    FileTree.IsName name := by
  match name, hlength with
  | a :: b :: c :: rest, _ =>
    exact ⟨by simp [Path.isHere], by simp [Path.isAbove], hslash⟩

/-- The file of a key has a name for what stands in a directory. -/
lemma IsKey.isName_fileName {key : Text} (h : IsKey key) : FileTree.IsName (fileName key) := by
  refine isName_of_length ?_ fun hslash => ?_
  · have hlength : (".json".toList).length = 5 := rfl
    rw [fileName, List.length_append]
    omega
  · rcases List.mem_append.1 hslash with hslash | hslash
    · exact h.2 hslash
    · exact absurd hslash (by decide)

/-- A text has a path just if it names a slot, which is that of its file in the directory. -/
lemma path_eq_ok_iff {directory key p : Text} :
    path directory (.text key) = .ok p ↔
      IsKey key ∧ p = joinPath directory (fileName key) := by
  have hempty : Json.isEmpty (.text key) = true ↔ key = [] := List.isEmpty_iff
  have hslash : hasSlash (.text key) = true ↔ '/' ∈ key := List.contains_iff_mem
  rw [path, IsKey]
  split
  · simp [hempty.1 ‹_›]
  split
  · contradiction
  split
  · simp [hslash.1 ‹_›]
  · rename_i hkey _ hnone
    rw [hempty] at hkey
    rw [hslash] at hnone
    rw [and_iff_right ⟨hkey, hnone⟩]
    exact ⟨fun h => (Except.ok.inj h).symm, fun h => h ▸ rfl⟩

/-- The path of the file of a key does not end with a slash. -/
lemma endsWith_slash_joinPath_fileName (directory key : Text) :
    (joinPath directory (fileName key)).endsWith ['/'] = false := by
  have hname : ∃ front, joinPath directory (fileName key) = front ++ fileName key := by
    unfold joinPath
    split
    · exact ⟨[], rfl⟩
    split
    · exact ⟨directory, rfl⟩
    · exact ⟨directory ++ ['/'], by simp⟩
  obtain ⟨front, hfront⟩ := hname
  rw [hfront, Bool.eq_false_iff, ne_eq, Text.endsWith, List.isSuffixOf_iff_suffix]
  rintro ⟨rest, hrest⟩
  have hlast := congrArg List.getLast? hrest
  simp [fileName] at hlast

/-- The file of a draft has a name for what stands in a directory. -/
lemma IsKey.isName_draftName {key : Text} (h : IsKey key) :
    FileTree.IsName (draftName (.text key) 0) := by
  have hplain : Json.plain (.text key) = key := rfl
  have hbehind : '/' ∉ '.' :: (List.leftpad 8 '_' (Text.ofNat 0) ++ ".tmp".toList) := by decide
  have hlength : (".tmp".toList).length = 4 := rfl
  rw [draftName, hplain]
  refine isName_of_length ?_ fun hslash => ?_
  · simp only [List.length_cons, List.length_append]
    omega
  · rcases List.mem_cons.1 hslash with hslash | hslash
    · exact absurd hslash (by decide)
    · exact (List.mem_append.1 hslash).elim h.2 hbehind

/-- No draft has the name of the file of a key. -/
lemma draftName_ne_fileName (key : Json) (attempt : Nat) (other : Text) :
    draftName key attempt ≠ fileName other := by
  intro heq
  have hlast := congrArg List.getLast? heq
  simp [draftName, fileName, List.getLast?_append, List.getLast?_cons] at hlast

/-! ## Operations at a place -/

section Place

variable {files : FileTree Bytes} {directory p : Text} {key : Json} {place : Path}
  {record : Option Text} (hpath : path directory key = .ok p)
  (hresolve : files.resolve p = .ok place)
  (hrecord : files.at? place = record.map fun s => .file (Utf8.encode s))

include hpath

/-- A text is written where the path of the key leads, if the directory is there and a draft has a
place where nothing stands. -/
lemma write_of_writablePlace {draft : Path} {s : Text}
    (hmake : files.makeDirectories directory = (files, .ok ()))
    (hdraft : files.resolve (joinPath directory (draftName key 0)) = .ok draft)
    (hnew : files.at? draft = none) (hwritable : files.writablePlace p = .ok place) :
    write files directory key (some s) = (files.putAt place (Utf8.encode s), [], .ok ()) := by
  have hplace : draftPlace files directory key = .ok draft :=
    FileTree.newPlace_of_at?_none _ hdraft hnew
  have hmove : (files.putAt draft (Utf8.encode s)).move draft p =
      .ok (files.putAt place (Utf8.encode s)) :=
    (FileTree.move_putAt_eq_ok_iff hnew).2 (by rw [FileTree.write, hwritable]; rfl)
  rw [write, hpath]
  dsimp only
  rw [hmake]
  dsimp only
  unfold replace
  rw [hplace]
  dsimp only
  rw [hmove]

include hresolve hrecord

/-- A key is read as the text without carriage returns that is in its file, or as null. -/
lemma read_eq (hs : ∀ s ∈ record, '\r' ∉ s) :
    read files directory key = .ok (record.elim .null .text) := by
  rw [read, hpath]
  dsimp only
  cases record with
  | none =>
    rw [FileTree.read, FileTree.find, hresolve]
    dsimp only
    rw [hrecord]
    rfl
  | some s =>
    rw [FileTree.read_eq_ok_iff.2 ⟨place, hresolve, hrecord⟩]
    dsimp only
    rw [textOfBytes_encode (hs s rfl)]
    rfl

/-- A key has a file if there is a text for it. -/
lemma exists?_eq : exists? files directory key = .ok record.isSome := by
  rw [exists?, hpath, Except.map, FileTree.isFile, FileTree.find, hresolve]
  dsimp only
  rw [hrecord]
  cases record <;> rfl

/-- The file of a key is deleted if there is one. -/
lemma delete_eq :
    delete files directory key =
      if record.isSome then .ok (files.removeAt place) else .error (.noRecord key) := by
  rw [delete, hpath]
  dsimp only
  rw [FileTree.remove, hresolve]
  dsimp only
  rw [hrecord]
  cases record <;> rfl

end Place

end EventPipeline.SlotFile
