import EventPipeline.Proofs.Encoding.Utf8
import EventPipeline.Proofs.FileTree
import EventPipeline.Proofs.Json.Printable
import EventPipeline.Store.Backend

/-!
# The slots of a medium

A slot is a name in memory or a place among the files, and `content?` is what it holds. A write of a
text that fails leaves every slot as it was, and one that succeeds fills the slot of its key and no
other (`sameSlots_of_write`, `written_of_write`). The view is that of the slots themselves: it does
not depend on which paths lead to a file, so a directory that a failed write leaves behind does not
count, while a file anywhere does, that of a draft among them (`SlotFile.replace_cases`). What a key
is read as does depend on them (`stillReads_of_write`).
-/

namespace EventPipeline

/-! ## Slots and what they hold -/

/-- A slot of a medium. -/
inductive Slot
  /-- A slot in memory. -/
  | named (name : SlotKey)
  /-- The place of a file. -/
  | file (place : Path)
  deriving DecidableEq

/-- What a slot holds. -/
inductive Content
  /-- A payload in memory. -/
  | payload (value : Json)
  /-- The bytes of a file. -/
  | bytes (bytes : Bytes)
  deriving DecidableEq

/-- What a slot holds that has a text for its payload. -/
def Slot.contentOf : Slot → Text → Content
  | named _, s => .payload (.text s)
  | file _, s => .bytes (Utf8.encode s)

namespace Medium

/-- What a slot holds, if it holds anything. -/
def content? (m : Medium) : Slot → Option Content
  | .named name =>
    match m.backend with
    | .memory slots => (slots.get? name).map .payload
    | _ => none
  | .file place => (m.files.files.get? place).map .bytes

/-- The slot of a key. -/
def slot? (m : Medium) (key : Json) : Option Slot :=
  match m.backend with
  | .memory _ => (SlotKey.ofJson? key).map .named
  | .directory path =>
    match SlotFile.path path key with
    | .ok p => (m.files.resolve p).toOption.map .file
    | .error _ => none

/-- Two media whose slots all hold the same. -/
def SameSlots (m m' : Medium) : Prop :=
  ∀ slot, m'.content? slot = m.content? slot

/-- What a key was read as it is read as in another medium, unless it was read as nothing and there
are other directories now: a path that led nowhere may then lead somewhere. -/
def StillReads (m m' : Medium) (key : Json) : Prop :=
  ∀ v, m.read key = .ok v → (v = .null → m'.files.directories = m.files.directories) →
    m'.read key = .ok v

/-- A medium and what it became when a text was written to the slot of a key: the slot holds the
text, every other slot holds what it held, and the key is read as the text. -/
structure Written (m m' : Medium) (key : Json) (payload : Text) : Prop where
  /-- The slot of the key holds the text, and no other slot has changed. -/
  content : ∃ slot, m'.slot? key = some slot ∧ m'.content? slot = some (slot.contentOf payload) ∧
    ∀ other, other ≠ slot → m'.content? other = m.content? other
  /-- The key is read as the text. -/
  read : m'.read key = .ok (.text payload)

/-! ## Writing -/

/-- The slots of a medium hold what they hold. -/
lemma sameSlots_refl (m : Medium) : m.SameSlots m :=
  fun _ => rfl

/-- A key of a medium is read as it is read. -/
lemma stillReads_refl (m : Medium) (key : Json) : m.StillReads m key :=
  fun _ h _ => h

/-- Making directories changes no slot. -/
lemma sameSlots_of_files {m : Medium} {files : FileTree Bytes}
    (h : files.files = m.files.files) : m.SameSlots { m with files := files } := by
  intro slot
  cases slot with
  | named name => rfl
  | file place => exact congrArg (fun d => (Dictionary.get? d place).map Content.bytes) h

end Medium

namespace SlotFile

/-- How a text replaces a file: there is no place for a draft, the draft is removed again because it
cannot have the place of the file, or the text is written there. In no case is a draft left. -/
lemma replace_cases (files : FileTree Bytes) (directory : Text) (key : Json) (path s : Text) :
    (∃ e, replace files directory key path (some s) = (files, [], .error (.path e))) ∨
    (∃ e, replace files directory key path (some s) =
      (files, [writeFailure key path], .error (.path e))) ∨
    ∃ files', files.write path (Utf8.encode s) = .ok files' ∧
      replace files directory key path (some s) = (files', [], .ok ()) := by
  unfold replace
  cases hdraft : draftPlace files directory key with
  | error e => exact .inl ⟨e, rfl⟩
  | ok draft =>
    have hnew := FileTree.at?_of_newPlace hdraft
    dsimp only
    cases hmove : (files.putAt draft (Utf8.encode s)).move draft path with
    | error e =>
      rw [FileTree.removeAt_putAt _ hnew]
      exact .inr (.inl ⟨e, rfl⟩)
    | ok files' => exact .inr (.inr ⟨files', (FileTree.move_putAt_eq_ok_iff hnew).1 hmove, rfl⟩)

/-- A file that could not be replaced leaves the files as they were. -/
lemma replace_of_error {files files' : FileTree Bytes} {directory path s : Text} {key : Json}
    {log : Log} {e : BackendError}
    (h : replace files directory key path (some s) = (files', log, .error e)) :
    files' = files := by
  rcases replace_cases files directory key path s with ⟨_, hsame⟩ | ⟨_, hsame⟩ | ⟨_, -, hdone⟩
  · exact (congrArg Prod.fst (hsame.symm.trans h)).symm
  · exact (congrArg Prod.fst (hsame.symm.trans h)).symm
  · exact absurd (congrArg (fun r => r.2.2) (hdone.symm.trans h)) (by simp)

/-- A file that was replaced has been written. -/
lemma replace_of_ok {files files' : FileTree Bytes} {directory path s : Text} {key : Json}
    {log : Log} (h : replace files directory key path (some s) = (files', log, .ok ())) :
    files.write path (Utf8.encode s) = .ok files' := by
  rcases replace_cases files directory key path s with ⟨_, hsame⟩ | ⟨_, hsame⟩ | ⟨_, hwrite, hdone⟩
  · exact absurd (congrArg (fun r => r.2.2) (hsame.symm.trans h)) (by simp)
  · exact absurd (congrArg (fun r => r.2.2) (hsame.symm.trans h)) (by simp)
  · rw [hwrite]
    exact congrArg (fun r => Except.ok r.1) (hdone.symm.trans h)

/-- Writing a text fails without doing more than to make directories. -/
lemma write_of_error {files files' : FileTree Bytes} {directory s : Text} {key : Json}
    {log : Log} {e : BackendError}
    (h : write files directory key (some s) = (files', log, .error e)) :
    files' = files ∨ files' = (files.makeDirectories directory).1 := by
  unfold write at h
  split at h
  · exact .inl (Prod.mk.inj h).1.symm
  · split at h
    · rename_i made _ hdirectories
      rw [hdirectories]
      exact .inr (Prod.mk.inj h).1.symm
    · rename_i made hdirectories
      rw [hdirectories]
      exact .inr (replace_of_error h)

/-- A write that succeeds writes the file of the key, once its directory is there. -/
lemma write_of_ok {files files' : FileTree Bytes} {directory s : Text} {key : Json} {log : Log}
    (h : write files directory key (some s) = (files', log, .ok ())) :
    ∃ (p : Text) (made : FileTree Bytes), path directory key = .ok p ∧ made.files = files.files ∧
      made.write p (Utf8.encode s) = .ok files' := by
  have hmade := files.files_makeDirectories directory
  unfold write at h
  cases hpath : path directory key with
  | error e =>
    rw [hpath] at h
    exact absurd (congrArg (fun r => r.2.2) h) (by simp)
  | ok p =>
    rw [hpath] at h
    dsimp only at h
    split at h
    · exact absurd (congrArg (fun r => r.2.2) h) (by simp)
    · rename_i made hdirectories
      rw [hdirectories] at hmade
      exact ⟨p, made, rfl, hmade, replace_of_ok h⟩

/-- The bytes of a text without carriage returns are read as the text. -/
lemma textOfBytes_encode {s : Text} (hs : '\r' ∉ s) : textOfBytes (Utf8.encode s) = .ok s := by
  rw [textOfBytes, Utf8.decode_encode]
  exact congrArg Except.ok (Text.universalNewlines_eq_self hs)

/-- A text without carriage returns that was written to a file is read from it. -/
lemma read_of_write {made files' : FileTree Bytes} {directory p s : Text} {key : Json}
    (hpath : path directory key = .ok p) (hwrite : made.write p (Utf8.encode s) = .ok files')
    (hs : '\r' ∉ s) : read files' directory key = .ok (.text s) := by
  rw [read, hpath]
  dsimp only
  rw [FileTree.read_of_write hwrite]
  dsimp only
  rw [textOfBytes_encode hs]

/-- A payload that is read was in a file. -/
lemma exists_file_of_read {files : FileTree Bytes} {directory : Text} {key v : Json}
    (h : read files directory key = .ok v) (hv : v ≠ .null) :
    ∃ p bytes, path directory key = .ok p ∧ files.read p = .ok bytes := by
  unfold read at h
  split at h
  · contradiction
  · rename_i p hpath
    split at h
    · exact absurd (Except.ok.inj h).symm hv
    · contradiction
    · rename_i bytes hbytes
      exact ⟨p, bytes, hpath, hbytes⟩

/-- A payload that was read is read as before when directories were made. -/
lemma read_makeDirectories {files : FileTree Bytes} {directory : Text} {key v : Json}
    (h : read files directory key = .ok v) (hv : v ≠ .null) (made : Text) :
    read (files.makeDirectories made).1 directory key = .ok v := by
  obtain ⟨p, bytes, hpath, hbytes⟩ := exists_file_of_read h hv
  unfold read at h ⊢
  rw [hpath] at h ⊢
  dsimp only at h ⊢
  rw [hbytes] at h
  rw [FileTree.read_makeDirectories hbytes made]
  exact h

end SlotFile

namespace Medium

/-- Writing a text that fails changes no slot. -/
lemma sameSlots_of_write {m m' : Medium} {key : Json} {s : Text} {log : Log} {e : BackendError}
    (h : m.write key (.text s) = (m', log, .error e)) : m.SameSlots m' := by
  unfold write at h
  split at h
  · obtain ⟨rfl, -⟩ := Prod.mk.inj h
    exact fun _ => rfl
  split at h
  · split at h
    · exact absurd (congrArg (fun r => r.2.2) h) (by simp)
    · obtain ⟨rfl, -⟩ := Prod.mk.inj h
      exact fun _ => rfl
  · rename_i path _
    obtain ⟨⟨files, log', result⟩, hwrite⟩ : ∃ r, SlotFile.write m.files path key (some s) = r :=
      ⟨_, rfl⟩
    rw [Json.text?, hwrite] at h
    obtain rfl : result = .error e := congrArg (fun r => r.2.2) h
    obtain ⟨rfl, -⟩ := Prod.mk.inj h
    rcases SlotFile.write_of_error hwrite with rfl | rfl
    · exact sameSlots_of_files rfl
    · exact sameSlots_of_files (m.files.files_makeDirectories path)

/-- A write that fails changes nothing of what is read, but for what the directories decide that it
has made. -/
lemma stillReads_of_write {m m' : Medium} {key : Json} {s : Text} {log : Log} {e : BackendError}
    (h : m.write key (.text s) = (m', log, .error e)) : m.StillReads m' key := by
  intro v hread hmade
  unfold write at h
  split at h
  · obtain ⟨rfl, -⟩ := Prod.mk.inj h
    exact hread
  split at h
  · split at h
    · exact absurd (congrArg (fun r => r.2.2) h) (by simp)
    · obtain ⟨rfl, -⟩ := Prod.mk.inj h
      exact hread
  · rename_i path hbackend
    obtain ⟨⟨files, log', result⟩, hwrite⟩ : ∃ r, SlotFile.write m.files path key (some s) = r :=
      ⟨_, rfl⟩
    rw [Json.text?, hwrite] at h
    obtain rfl : result = .error e := congrArg (fun r => r.2.2) h
    obtain ⟨rfl, -⟩ := Prod.mk.inj h
    simp only [read, hbackend] at hread ⊢
    rcases SlotFile.write_of_error hwrite with rfl | hfiles
    · exact hread
    by_cases hv : v = .null
    · have hsame : files = m.files := by
        have hfile : files.files = m.files.files := by
          rw [hfiles]
          exact m.files.files_makeDirectories path
        cases files
        cases hm : m.files
        simp_all
      rwa [hsame]
    · rw [hfiles]
      exact SlotFile.read_makeDirectories hread hv path

/-- A text without carriage returns that was written fills the slot of its key and no other, and is
read under its key. -/
lemma written_of_write {m m' : Medium} {key : Json} {s : Text} {log : Log} (hs : '\r' ∉ s)
    (h : m.write key (.text s) = (m', log, .ok ())) : Written m m' key s := by
  unfold write at h
  split at h
  · exact absurd (congrArg (fun r => r.2.2) h) (by simp)
  split at h
  · rename_i slots hbackend
    split at h
    · rename_i name hname
      obtain ⟨rfl, -⟩ := Prod.mk.inj h
      have hget := Dictionary.get?_put_self slots name (Json.text s)
      refine ⟨⟨.named name, ?_, ?_, ?_⟩, ?_⟩
      · simp only [slot?, hname, Option.map_some]
      · simp only [content?, hget, Option.map_some, Slot.contentOf]
      · intro other hne
        cases other with
        | named other =>
          have hother : other ≠ name := fun e => hne (e ▸ rfl)
          simp only [content?, hbackend, Dictionary.get?_put_of_ne slots (.text s) hother]
        | file place => rfl
      · simp only [read, hname, hget, Option.getD_some]
    · exact absurd (congrArg (fun r => r.2.2) h) (by simp)
  · rename_i directory hbackend
    obtain ⟨⟨files', log', result⟩, hwrite⟩ :
        ∃ r, SlotFile.write m.files directory key (some s) = r := ⟨_, rfl⟩
    rw [Json.text?, hwrite] at h
    obtain rfl : result = .ok () := congrArg (fun r => r.2.2) h
    obtain ⟨rfl, -⟩ := Prod.mk.inj h
    obtain ⟨p, made, hpath, hmade, hfile⟩ := SlotFile.write_of_ok hwrite
    obtain ⟨place, hresolve, hplace, rfl⟩ := FileTree.exists_place_of_write hfile
    have hread := SlotFile.read_of_write hpath hfile hs
    have hstill := FileTree.resolve_putAt place (Utf8.encode s) hresolve
    refine ⟨⟨.file place, ?_, ?_, ?_⟩, ?_⟩
    · simp only [slot?, hbackend, hpath, hstill]
      rfl
    · exact congrArg (Option.map Content.bytes) (Dictionary.get?_put_self _ place _)
    · intro other hne
      cases other with
      | named other => rfl
      | file other =>
        have hother : other ≠ place := fun e => hne (e ▸ rfl)
        refine congrArg (Option.map Content.bytes) ?_
        rw [← hmade]
        exact Dictionary.get?_put_of_ne _ _ hother
    · simp only [read, hbackend]
      exact hread

end Medium

end EventPipeline
