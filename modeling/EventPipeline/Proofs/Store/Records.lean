import EventPipeline.Proofs.Result
import EventPipeline.Proofs.Store.File
import EventPipeline.Store.Call
import Mathlib.Logic.Function.Basic

/-!
# One set of records, two backends

A backend in memory and one in a directory answer calls with texts alike. Between the two stand
records, which give each key its payload or none. Memory has them in its slots (`InMemory`), a
directory has them in its files and holds nothing else (`InFiles`): neither leaves its records by a
call (`InMemory.call`, `InFiles.call`), so neither does by a run of calls (`calls_of_call`).

Keys have to be such that the system has names for them and allows those, and payloads have no
carriage return, which reading a file would change (`BackendCall.IsAccepted`).
-/

namespace EventPipeline

/-! ## Calls with texts -/

/-- A call on a backend, whose keys and payloads are texts. -/
inductive TextCall
  /-- Read the payload of a key. -/
  | read (key : Text)
  /-- Write a payload under a key. -/
  | write (key payload : Text)
  /-- Delete the payload of a key. -/
  | delete (key : Text)
  /-- Ask whether a key has a payload. -/
  | holds (key : Text)
  deriving DecidableEq, Repr

namespace TextCall

/-- The key of a call. -/
def key : TextCall → Text
  | read key => key
  | write key _ => key
  | delete key => key
  | holds key => key

/-- The call with raw texts that a call with texts is. -/
def raw : TextCall → BackendCall
  | read key => .read (.ofText key)
  | write key payload => .write (.ofText key) (.ofText payload)
  | delete key => .delete (.ofText key)
  | holds key => .holds (.ofText key)

/-- The key of a call is the one that it has with raw texts. -/
lemma key_raw (c : TextCall) : c.raw.key = .ofText c.key := by
  cases c <;> rfl

end TextCall

/-- Different texts are different raw texts. -/
lemma RawText.ofText_injective : Function.Injective RawText.ofText :=
  List.map_injective_iff.2 fun _ _ h => CodePoint.char.inj h

/-- The same characters are in a text and in the raw text that it is. -/
lemma RawText.char_mem_ofText_iff {c : Char} {s : Text} : .char c ∈ RawText.ofText s ↔ c ∈ s := by
  simp [RawText.ofText]

/-! ## Calls that are accepted -/

open SlotFile (IsKey fileName draftName fileName_injective path_eq_ok_iff
  endsWith_slash_joinPath_fileName draftName_ne_fileName)

/-- A name that the system allows in a directory. -/
structure SlotFile.IsAllowedName (directory name : Text) : Prop where
  /-- The name is not too long. -/
  size : FileTree.byteSize name ≤ FileTree.nameLimit
  /-- Nothing is wrong with its path. -/
  path : FileTree.pathFault? (joinPath directory name) = none

open SlotFile (IsAllowedName)

instance (directory name : Text) : Decidable (IsAllowedName directory name) :=
  decidable_of_iff (FileTree.byteSize name ≤ FileTree.nameLimit ∧
    FileTree.pathFault? (joinPath directory name) = none) ⟨fun h => ⟨h.1, h.2⟩, fun h => ⟨h.1, h.2⟩⟩

namespace BackendCall

/-- The payload that a call writes. -/
def payload? : BackendCall → Option RawText
  | write _ payload => some payload
  | _ => none

/-- The names of the files that a call makes use of when the system has a name for its key: that of
the slot, and for a write that of the draft. -/
def fileNames (name : Text) : BackendCall → List Text
  | write _ _ => [fileName name, draftName (.text name) 0]
  | _ => [fileName name]

/-- A call with a key for which the system has a name, whose files have names that it allows, and
with a payload without carriage returns. -/
structure IsAccepted (directory : Text) (c : BackendCall) : Prop where
  /-- The system has a name for the key, and allows those of the files. -/
  name : ∃ name, SlotFile.systemKey c.key = .ok name ∧
    ∀ file ∈ c.fileNames name, IsAllowedName directory file
  /-- The payload has no carriage return. -/
  payload : ∀ payload ∈ c.payload?, .char '\r' ∉ payload

instance (directory : Text) (c : BackendCall) : Decidable (c.IsAccepted directory) :=
  decidable_of_iff ((∀ name ∈ (SlotFile.systemKey c.key).toOption,
      ∀ file ∈ c.fileNames name, IsAllowedName directory file) ∧
      (SlotFile.systemKey c.key).isOk = true ∧ ∀ payload ∈ c.payload?, .char '\r' ∉ payload) <| by
    constructor
    · rintro ⟨hnames, hname, hpayload⟩
      obtain ⟨name, hname⟩ := isOk_iff_exists.1 hname
      exact ⟨⟨name, hname, hnames name (toOption_eq_some_iff.2 hname)⟩, hpayload⟩
    · rintro ⟨⟨name, hname, hnames⟩, hpayload⟩
      refine ⟨fun other hother => ?_, by rw [hname]; rfl, hpayload⟩
      rw [hname] at hother
      exact Option.some.inj hother ▸ hnames

end BackendCall

/-- The system has the name of a text for it, just if the text names a slot. -/
lemma SlotFile.systemKey_ofText_eq_ok_iff {key name : Text} :
    systemKey (.ofText key) = .ok name ↔ IsKey key ∧ name = key := by
  have hkey : ((RawText.ofText key).isEmpty || (RawText.ofText key).contains (.char '/')) = true ↔
      ¬IsKey key := by
    rw [Bool.or_eq_true, List.contains_iff_mem, RawText.char_mem_ofText_iff, IsKey, not_and_or,
      not_not, not_not]
    simp [RawText.ofText]
  rw [systemKey, RawText.nameBytes?_ofText]
  split
  · rename_i h
    simp [hkey.1 h]
  · rename_i h
    rw [hkey, not_not] at h
    simp [Utf8.decode_encode, Except.mapError, h, eq_comm]

/-- A call with texts that is accepted has a key for a slot, and files with names that the system
allows. -/
lemma TextCall.isKey_of_isAccepted {directory : Text} {c : TextCall}
    (h : c.raw.IsAccepted directory) :
    IsKey c.key ∧ ∀ file ∈ c.raw.fileNames c.key, IsAllowedName directory file := by
  obtain ⟨name, hname, hnames⟩ := h.name
  rw [c.key_raw, SlotFile.systemKey_ofText_eq_ok_iff] at hname
  exact ⟨hname.1, hname.2 ▸ hnames⟩

/-- The system has the name of an accepted key for it. -/
lemma TextCall.systemKey_of_isAccepted {directory : Text} {c : TextCall}
    (h : c.raw.IsAccepted directory) : SlotFile.systemKey (.ofText c.key) = .ok c.key :=
  SlotFile.systemKey_ofText_eq_ok_iff.2 ⟨(isKey_of_isAccepted h).1, rfl⟩

namespace CalledMedium

/-! ## Records -/

/-- The payloads of keys. -/
abbrev Records := Text → Option Text

/-- What a call gives back when there are some records. -/
def answer (records : Records) : TextCall → Except CallError CallAnswer
  | .read key => .ok ((records key).elim .nothing fun s => .payload (.ofText s))
  | .write _ _ => .ok .nothing
  | .delete key => if (records key).isSome then .ok .nothing else .error (.noRecord (.ofText key))
  | .holds key => .ok (.truth (records key).isSome)

/-- The records after a call. -/
def recordsAfter (records : Records) : TextCall → Records
  | .write key payload => Function.update records key (some payload)
  | .delete key => Function.update records key none
  | _ => records

/-- What some calls give back, one after the other. -/
def answers : Records → List TextCall → List (Except CallError CallAnswer)
  | _, [] => []
  | records, c :: rest => answer records c :: answers (recordsAfter records c) rest

/-- A backend that stands for records in some way answers calls as the records do, if it does so for
one call. -/
lemma calls_of_call {Stands : CalledMedium → Records → Prop} {Allowed : TextCall → Prop}
    (hcall : ∀ m records c, Stands m records → Allowed c →
      (m.call c.raw).2.2 = answer records c ∧ Stands (m.call c.raw).1 (recordsAfter records c))
    {m : CalledMedium} {records : Records} (h : Stands m records) {cs : List TextCall}
    (hcs : ∀ c ∈ cs, Allowed c) :
    (m.calls (cs.map TextCall.raw)).2 = answers records cs ∧
      Stands (m.calls (cs.map TextCall.raw)).1 (cs.foldl recordsAfter records) := by
  induction cs generalizing m records with
  | nil => exact ⟨rfl, h⟩
  | cons c rest ih =>
    obtain ⟨hc, hrest⟩ := List.forall_mem_cons.1 hcs
    obtain ⟨hanswer, hstands⟩ := hcall m records c h hc
    obtain ⟨hanswers, hlast⟩ := ih hstands hrest
    exact ⟨congrArg₂ List.cons hanswer hanswers, hlast⟩

/-! ## Records in a dictionary -/

section Dictionary

variable {κ α : Type} [DecidableEq κ] {d : Dictionary κ α} {slot : Text → κ} {value : Text → α}
  {P : Text → Prop} {records : Records}

/-- A dictionary that has the records of some keys: the payload of each stands in the slot of the
key. -/
def Records.AreIn (records : Records) (d : Dictionary κ α) (slot : Text → κ) (value : Text → α)
    (P : Text → Prop) : Prop :=
  ∀ key, P key → d.get? (slot key) = (records key).map value

/-- Putting a payload in the slot of a key puts the record, if no slots are shared. -/
lemma Records.AreIn.put (h : records.AreIn d slot value P) (hslot : Function.Injective slot)
    (key payload : Text) :
    Records.AreIn (Function.update records key (some payload)) (d.put (slot key) (value payload))
      slot value P := by
  intro other hother
  by_cases heq : other = key
  · subst heq
    rw [Function.update_self]
    exact Dictionary.get?_put_self _ _ _
  · rw [Function.update_of_ne heq, ← h other hother]
    exact Dictionary.get?_put_of_ne _ _ (hslot.ne heq)

/-- Erasing the slot of a key erases the record, if no slots are shared. -/
lemma Records.AreIn.erase (h : records.AreIn d slot value P) (hslot : Function.Injective slot)
    (key : Text) :
    Records.AreIn (Function.update records key none) (d.erase (slot key)) slot value P := by
  intro other hother
  by_cases heq : other = key
  · subst heq
    rw [Function.update_self]
    exact Dictionary.get?_erase_self _ _
  · rw [Function.update_of_ne heq, ← h other hother]
    exact Dictionary.get?_erase_of_ne _ (hslot.ne heq)

/-- Deleting a record that is not there changes no record. -/
lemma Records.update_none {key : Text} (h : records key = none) :
    Function.update records key none = records := by
  rw [← h, Function.update_eq_self]

end Dictionary

/-! ## Records in memory -/

/-- A backend in memory that has the records in its slots. -/
def InMemory (m : CalledMedium) (records : Records) : Prop :=
  ∃ slots, m.backend = .memory slots ∧
    records.AreIn slots RawText.ofText RawText.ofText fun _ => True

/-- Memory answers a call as the records do. -/
lemma InMemory.call {m : CalledMedium} {records : Records} (h : m.InMemory records)
    (c : TextCall) :
    (m.call c.raw).2.2 = answer records c ∧ (m.call c.raw).1.InMemory (recordsAfter records c) := by
  obtain ⟨slots, hbackend, hslots⟩ := h
  obtain ⟨backend, files⟩ := m
  dsimp only at hbackend
  subst hbackend
  have hget := hslots c.key trivial
  have hcontains : slots.contains (.ofText c.key) = (records c.key).isSome := by
    rw [Dictionary.contains, hget, Option.isSome_map]
  cases c with
  | read key =>
    refine ⟨?_, slots, rfl, hslots⟩
    dsimp only [TextCall.key] at hget
    simp only [CalledMedium.call, callMemory, TextCall.raw, hget, answer]
    cases records key <;> rfl
  | write key payload => exact ⟨rfl, _, rfl, hslots.put RawText.ofText_injective key payload⟩
  | delete key =>
    dsimp only [TextCall.key] at hcontains
    simp only [CalledMedium.call, callMemory, TextCall.raw, hcontains, answer, recordsAfter]
    cases hrecord : records key with
    | none =>
      rw [Records.update_none hrecord]
      exact ⟨rfl, slots, rfl, hslots⟩
    | some s => exact ⟨rfl, _, rfl, hslots.erase RawText.ofText_injective key⟩
  | holds key =>
    exact ⟨congrArg (fun there => Except.ok (CallAnswer.truth there)) hcontains, slots, rfl, hslots⟩

/-! ## Records in a directory -/

/-- A backend that has the records in the files of a directory, and nothing else there. All other
files are as they were at the start. -/
structure InFiles (start : FileTree Bytes) (directory : Text) (place : Path) (m : CalledMedium)
    (records : Records) : Prop where
  /-- The backend is that of the directory. -/
  backend : m.backend = .directory directory
  /-- The directories are as they were. -/
  directories : m.files.directories = start.directories
  /-- The file of every key holds its payload. -/
  file : records.AreIn m.files.files (fun key => place ++ [fileName key]) Utf8.encode IsKey
  /-- Other files are as they were. -/
  other : ∀ other, (∀ key, IsKey key → other ≠ place ++ [fileName key]) →
    m.files.files.get? other = start.files.get? other
  /-- Records are under keys for slots in a directory, and have no carriage returns. -/
  record : ∀ key s, records key = some s → IsKey key ∧ '\r' ∉ s

/-- Different keys have their files at different places. -/
lemma place_injective (place : Path) :
    Function.Injective fun key => place ++ [fileName key] :=
  fun _ _ h => fileName_injective (by simpa using h)

namespace InFiles

variable {start : FileTree Bytes} {directory : Text} {place : Path} {m : CalledMedium}
  {records : Records}

/-- Directories stand where they stood. -/
lemma hasDirectoryAt (h : m.InFiles start directory place records) (other : Path) :
    m.files.hasDirectoryAt other = start.hasDirectoryAt other := by
  rw [FileTree.hasDirectoryAt, FileTree.hasDirectoryAt, h.directories]

/-- Paths lead where they led. -/
lemma resolve (h : m.InFiles start directory place records) {path : Text} {final : Path}
    (hpath : start.resolve path = .ok final) : m.files.resolve path = .ok final :=
  FileTree.resolve_mono (fun other hother => by rwa [h.hasDirectoryAt]) hpath

/-- Putting the file of a key puts the record of the key. -/
lemma put (h : m.InFiles start directory place records) {key payload : Text}
    (hkey : IsKey key) (hpayload : '\r' ∉ payload) :
    InFiles start directory place
      { m with files := m.files.putAt (place ++ [fileName key]) (Utf8.encode payload) }
      (Function.update records key (some payload)) := by
  refine ⟨h.backend, h.directories, h.file.put (place_injective place) key payload,
    fun other hother => ?_, fun other s hs => ?_⟩
  · rw [← h.other other hother]
    exact Dictionary.get?_put_of_ne _ _ (hother key hkey)
  · rw [Function.update_apply] at hs
    split at hs
    · rename_i heq
      exact heq ▸ Option.some.inj hs ▸ ⟨hkey, hpayload⟩
    · exact h.record other s hs

/-- Removing the file of a key removes the record of the key. -/
lemma remove (h : m.InFiles start directory place records) {key : Text}
    (hkey : IsKey key) :
    InFiles start directory place
      { m with files := m.files.removeAt (place ++ [fileName key]) }
      (Function.update records key none) := by
  refine ⟨h.backend, h.directories, h.file.erase (place_injective place) key,
    fun other hother => ?_, fun other s hs => ?_⟩
  · rw [← h.other other hother]
    exact Dictionary.get?_erase_of_ne _ (hother key hkey)
  · rw [Function.update_apply] at hs
    split at hs
    · contradiction
    · exact h.record other s hs

/-- Nothing but a file with its payload stands at the place of a key. -/
lemma at?_fileName (h : m.InFiles start directory place records)
    (hempty : start.IsEmptyDirectory directory place) {key : Text} (hkey : IsKey key) :
    m.files.hasDirectoryAt (place ++ [fileName key]) = false ∧
      m.files.at? (place ++ [fileName key]) =
        (records key).map fun s => .file (Utf8.encode s) := by
  have hno := ((FileTree.at?_eq_none_iff start _).1 (hempty.empty _ hkey.isName_fileName)).1
  rw [← h.hasDirectoryAt] at hno
  refine ⟨hno, ?_⟩
  rw [FileTree.at?, hno, if_neg Bool.false_ne_true, h.file key hkey, Option.map_map]
  rfl

/-- Nothing stands in the directory under the name of no file of a key. -/
lemma at?_of_ne (h : m.InFiles start directory place records)
    (hempty : start.IsEmptyDirectory directory place) {name : Text} (hname : FileTree.IsName name)
    (hne : ∀ key, IsKey key → name ≠ fileName key) : m.files.at? (place ++ [name]) = none := by
  have hother : m.files.files.get? (place ++ [name]) = start.files.get? (place ++ [name]) :=
    h.other _ fun key hkey hsame => hne key hkey (by simpa using hsame)
  have hnone := hempty.empty name hname
  rwa [FileTree.at?, h.hasDirectoryAt, hother, ← FileTree.at?]

/-- What stands in the directory are the files with the payloads of the records. -/
lemma at?_eq_some_iff (h : m.InFiles start directory place records)
    (hempty : start.IsEmptyDirectory directory place) {name : Text} (hname : FileTree.IsName name)
    (entry : Entry Bytes) :
    m.files.at? (place ++ [name]) = some entry ↔
      ∃ key s, name = fileName key ∧ records key = some s ∧ entry = .file (Utf8.encode s) := by
  constructor
  · intro hentry
    by_cases hfile : ∃ key, IsKey key ∧ name = fileName key
    · obtain ⟨key, hkey, rfl⟩ := hfile
      rw [(h.at?_fileName hempty hkey).2, Option.map_eq_some_iff] at hentry
      obtain ⟨s, hs, rfl⟩ := hentry
      exact ⟨key, s, rfl, hs, rfl⟩
    · rw [h.at?_of_ne hempty hname fun key hkey heq => hfile ⟨key, hkey, heq⟩] at hentry
      contradiction
  · rintro ⟨key, s, rfl, hs, rfl⟩
    have hkey := (h.record key s hs).1
    rw [(h.at?_fileName hempty hkey).2, hs]
    rfl

/-- The path of an allowed name leads to the place below that of the directory. -/
lemma resolve_joinPath (h : m.InFiles start directory place records)
    (hempty : start.IsEmptyDirectory directory place) {name : Text} (hname : FileTree.IsName name)
    (hallowed : IsAllowedName directory name) :
    m.files.resolve (joinPath directory name) = .ok (place ++ [name]) :=
  h.resolve
    (FileTree.resolve_joinPath hempty.leads hempty.directory hname hallowed.size hallowed.path)

/-- The directory is there, so it is not made. -/
lemma makeDirectories (h : m.InFiles start directory place records)
    (hempty : start.IsEmptyDirectory directory place) :
    m.files.makeDirectories directory = (m.files, .ok ()) :=
  FileTree.makeDirectories_of_leadsTo
    ⟨place, h.resolve hempty.leads, by rw [h.hasDirectoryAt, hempty.directory]⟩

/-- The path of the file of an accepted key leads to its place. -/
lemma resolve_fileName (h : m.InFiles start directory place records)
    (hempty : start.IsEmptyDirectory directory place) {c : TextCall}
    (hc : c.raw.IsAccepted directory) :
    m.files.resolve (joinPath directory (fileName c.key)) = .ok (place ++ [fileName c.key]) := by
  obtain ⟨hkey, hnames⟩ := TextCall.isKey_of_isAccepted hc
  exact h.resolve_joinPath hempty hkey.isName_fileName
    (hnames _ (by cases c <;> exact List.mem_cons_self))

/-- The file of an accepted key is read as its record. -/
lemma readRaw_eq (h : m.InFiles start directory place records)
    (hempty : start.IsEmptyDirectory directory place) {key : Text}
    (hc : (TextCall.read key).raw.IsAccepted directory) :
    SlotFile.readRaw m.files directory (.ofText key) = answer records (.read key) := by
  have hkey : IsKey key := (TextCall.isKey_of_isAccepted hc).1
  have hsystem : SlotFile.systemKey (.ofText key) = .ok key := TextCall.systemKey_of_isAccepted hc
  have hread := SlotFile.read_eq (path_eq_ok_iff.2 ⟨hkey, rfl⟩) (h.resolve_fileName hempty hc)
    (h.at?_fileName hempty hkey).2 fun s hs => (h.record key s hs).2
  rw [SlotFile.readRaw, hsystem]
  dsimp only
  rw [hread, answer]
  cases records key <;> rfl

/-- A payload is written to the file of an accepted key, by way of a draft that is not there yet. -/
lemma writeRaw_eq (h : m.InFiles start directory place records)
    (hempty : start.IsEmptyDirectory directory place) {key payload : Text}
    (hc : (TextCall.write key payload).raw.IsAccepted directory) :
    SlotFile.writeRaw m.files directory (.ofText key) (.ofText payload) =
      (m.files.putAt (place ++ [fileName key]) (Utf8.encode payload), [], .ok .nothing) := by
  obtain ⟨hkey, hnames⟩ := TextCall.isKey_of_isAccepted hc
  dsimp only [TextCall.key] at hkey hnames
  have hsystem : SlotFile.systemKey (.ofText key) = .ok key := TextCall.systemKey_of_isAccepted hc
  have hwritable := FileTree.writablePlace_eq_ok_iff.2
    ⟨endsWith_slash_joinPath_fileName directory key, h.resolve_fileName hempty hc,
      (h.at?_fileName hempty hkey).1⟩
  have hdraft := h.resolve_joinPath hempty hkey.isName_draftName
    (hnames _ (List.mem_cons_of_mem _ List.mem_cons_self))
  have hnew := h.at?_of_ne hempty hkey.isName_draftName
    fun other _ => draftName_ne_fileName (.text key) 0 other
  have hwrite := SlotFile.write_of_writablePlace (s := payload) (path_eq_ok_iff.2 ⟨hkey, rfl⟩)
    (h.makeDirectories hempty) hdraft hnew hwritable
  rw [SlotFile.writeRaw, hsystem, RawText.toText?_ofText]
  dsimp only
  rw [hwrite]
  rfl

/-- The file of an accepted key is deleted if it has a record. -/
lemma deleteRaw_eq (h : m.InFiles start directory place records)
    (hempty : start.IsEmptyDirectory directory place) {key : Text}
    (hc : (TextCall.delete key).raw.IsAccepted directory) :
    SlotFile.deleteRaw m.files directory (.ofText key) =
      if (records key).isSome then .ok (m.files.removeAt (place ++ [fileName key]))
      else .error (.noRecord (.ofText key)) := by
  have hkey : IsKey key := (TextCall.isKey_of_isAccepted hc).1
  have hsystem : SlotFile.systemKey (.ofText key) = .ok key := TextCall.systemKey_of_isAccepted hc
  have hdelete := SlotFile.delete_eq (path_eq_ok_iff.2 ⟨hkey, rfl⟩) (h.resolve_fileName hempty hc)
    (h.at?_fileName hempty hkey).2
  rw [SlotFile.deleteRaw, hsystem]
  dsimp only
  rw [hdelete]
  cases records key <;> rfl

/-- There is a file of an accepted key if the key has a record. -/
lemma existsRaw_eq (h : m.InFiles start directory place records)
    (hempty : start.IsEmptyDirectory directory place) {key : Text}
    (hc : (TextCall.holds key).raw.IsAccepted directory) :
    SlotFile.existsRaw m.files directory (.ofText key) = answer records (.holds key) := by
  have hkey : IsKey key := (TextCall.isKey_of_isAccepted hc).1
  have hsystem : SlotFile.systemKey (.ofText key) = .ok key := TextCall.systemKey_of_isAccepted hc
  have hexists := SlotFile.exists?_eq (path_eq_ok_iff.2 ⟨hkey, rfl⟩) (h.resolve_fileName hempty hc)
    (h.at?_fileName hempty hkey).2
  rw [SlotFile.existsRaw, hsystem]
  dsimp only
  rw [hexists, answer]
  cases records key <;> rfl

/-- A directory answers a call as the records do. -/
lemma call (hempty : start.IsEmptyDirectory directory place)
    (h : m.InFiles start directory place records) {c : TextCall}
    (hc : c.raw.IsAccepted directory) :
    (m.call c.raw).2.2 = answer records c ∧
      (m.call c.raw).1.InFiles start directory place (recordsAfter records c) := by
  have hdirectory : m.call c.raw = m.callDirectory directory c.raw := by
    rw [CalledMedium.call, h.backend]
  rw [hdirectory]
  cases c with
  | read key => exact ⟨h.readRaw_eq hempty hc, h⟩
  | write key payload =>
    have hkey : IsKey key := (TextCall.isKey_of_isAccepted hc).1
    have hpayload : '\r' ∉ payload := fun hmem =>
      hc.payload _ rfl (RawText.char_mem_ofText_iff.2 hmem)
    rw [TextCall.raw, callDirectory, h.writeRaw_eq hempty hc]
    exact ⟨rfl, h.put hkey hpayload⟩
  | delete key =>
    have hkey : IsKey key := (TextCall.isKey_of_isAccepted hc).1
    rw [TextCall.raw, callDirectory, h.deleteRaw_eq hempty hc, answer, recordsAfter]
    cases hrecord : records key with
    | none =>
      rw [Records.update_none hrecord]
      exact ⟨rfl, h⟩
    | some s => exact ⟨rfl, h.remove hkey⟩
  | holds key => exact ⟨h.existsRaw_eq hempty hc, h⟩

end InFiles

end CalledMedium

end EventPipeline
