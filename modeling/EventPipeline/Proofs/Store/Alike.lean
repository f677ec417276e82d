import EventPipeline.Proofs.Store.Records
import EventPipeline.Proofs.Store.WriteThrough

/-!
# Two backends that nobody can tell apart

A directory that is empty and an empty memory give back the same by calls with texts, and the
directory then holds the files of what is in memory and nothing else (`alikeBy_calls`): both stand
for the same records all along. The payloads of a store are among those that this is about, because
they are printable.

With surrogates in keys or payloads the two are not alike (`not_forall_alike`). Two keys may have one
name, and then share a file; and memory keeps a payload that cannot be encoded.
-/

namespace EventPipeline

namespace CalledMedium

/-! ## Slots -/

/-- A slot of a backend that is called. -/
inductive CalledSlot
  /-- A slot in memory. -/
  | named (key : RawText)
  /-- The place of a file. -/
  | file (place : Path)
  deriving DecidableEq

/-- The slot of a key. -/
def slot? (m : CalledMedium) (key : RawText) : Option CalledSlot :=
  match m.backend with
  | .memory _ => some (.named key)
  | .directory path =>
    match SlotFile.systemKey key with
    | .error _ => none
    | .ok name =>
      (m.files.resolve (joinPath path (SlotFile.fileName name))).toOption.map .file

/-- The slot of the key of an accepted call is the place of its file. -/
lemma InFiles.slot?_eq {start : FileTree Bytes} {directory : Text} {place : Path} {m : CalledMedium}
    {records : Records} (h : m.InFiles start directory place records)
    (hempty : start.IsEmptyDirectory directory place) {c : TextCall}
    (hc : c.raw.IsAccepted directory) :
    m.slot? (.ofText c.key) = some (.file (place ++ [SlotFile.fileName c.key])) := by
  simp only [slot?, h.backend, TextCall.systemKey_of_isAccepted hc,
    h.resolve_fileName hempty hc]
  rfl

/-! ## Two backends -/

/-- Failures that the records report are those of deletions of keys without a payload. -/
lemma exists_delete_of_error_mem_answers {records : Records} {cs : List TextCall} {e : CallError}
    (h : .error e ∈ answers records cs) :
    ∃ key, .delete key ∈ cs.map TextCall.raw ∧ e = .noRecord key := by
  induction cs generalizing records with
  | nil => contradiction
  | cons c rest ih =>
    rcases List.mem_cons.1 h with hanswer | hrest
    · cases c with
      | delete key =>
        rw [answer] at hanswer
        split at hanswer
        · contradiction
        · exact ⟨.ofText key, List.mem_cons_self, Except.error.inj hanswer⟩
      | _ => contradiction
    · obtain ⟨key, hkey, he⟩ := ih hrest
      exact ⟨key, List.mem_cons_of_mem c.raw hkey, he⟩

/-- Calls on a medium in a directory and on one in memory, with the media after them and their
results, that nobody can tell apart. -/
structure AlikeBy (start : FileTree Bytes) (place : Path) (cs : List BackendCall)
    (disk memory : CalledMedium × List (Except CallError CallAnswer)) : Prop where
  /-- The results are the same. -/
  results : disk.2 = memory.2
  /-- Nothing fails but deletions, because there is no record. -/
  failures : ∀ e, .error e ∈ disk.2 → ∃ key, .delete key ∈ cs ∧ e = .noRecord key
  /-- The directory holds the files with the payloads that are in memory, and nothing else. -/
  files : ∃ slots, memory.1.backend = .memory slots ∧
    ∀ name entry, FileTree.IsName name →
      (disk.1.files.at? (place ++ [name]) = some entry ↔
        ∃ key s, name = SlotFile.fileName key ∧ slots.get? (.ofText key) = some (.ofText s) ∧
          entry = .file (Utf8.encode s))
  /-- Directories are as they were. -/
  directories : disk.1.files.directories = start.directories
  /-- Files elsewhere are as they were. -/
  elsewhere : ∀ other, (∀ name, FileTree.IsName name → other ≠ place ++ [name]) →
    disk.1.files.files.get? other = start.files.get? other
  /-- Different keys have different slots. -/
  apart : ∀ c ∈ cs, ∀ c' ∈ cs, c.key ≠ c'.key →
    disk.1.slot? c.key ≠ disk.1.slot? c'.key ∧ memory.1.slot? c.key ≠ memory.1.slot? c'.key

/-- Media that stand for the same records are alike by calls that gave back the same. -/
lemma AlikeBy.of_records {start : FileTree Bytes} {directory : Text} {place : Path}
    (hempty : start.IsEmptyDirectory directory place) {cs : List TextCall}
    (hcs : ∀ c ∈ cs, c.raw.IsAccepted directory) {records : Records}
    {disk memory : CalledMedium × List (Except CallError CallAnswer)}
    (hdisk : disk.2 = answers (fun _ => none) cs) (hmemory : memory.2 = answers (fun _ => none) cs)
    (hfiles : disk.1.InFiles start directory place records)
    (hslots : memory.1.InMemory records) :
    AlikeBy start place (cs.map TextCall.raw) disk memory := by
  obtain ⟨slots, hbackend, hrecords⟩ := hslots
  refine ⟨hdisk.trans hmemory.symm, ?_, ⟨slots, hbackend, ?_⟩, hfiles.directories, ?_, ?_⟩
  · intro e he
    rw [hdisk] at he
    exact exists_delete_of_error_mem_answers he
  · intro name entry hname
    have hpayload : ∀ key s, slots.get? (.ofText key) = some (.ofText s) ↔
        records key = some s := by
      intro key s
      rw [hrecords key trivial, Option.map_eq_some_iff]
      simp [RawText.ofText_injective.eq_iff]
    simp only [hpayload]
    exact hfiles.at?_eq_some_iff hempty hname entry
  · intro other hother
    exact hfiles.other other fun key hkey => hother _ hkey.isName_fileName
  · intro c hc c' hc' hne
    obtain ⟨t, ht, rfl⟩ := List.mem_map.1 hc
    obtain ⟨t', ht', rfl⟩ := List.mem_map.1 hc'
    rw [TextCall.key_raw, TextCall.key_raw] at hne ⊢
    refine ⟨fun hsame => hne ?_, fun hsame => hne ?_⟩
    · rw [hfiles.slot?_eq hempty (hcs t ht), hfiles.slot?_eq hempty (hcs t' ht')] at hsame
      exact congrArg RawText.ofText (place_injective place (by simpa using hsame))
    · simpa [slot?, hbackend] using hsame

/-- A directory that is empty and an empty memory cannot be told apart by calls with texts that are
accepted: they give back the same, fail at the same steps, and what the directory holds in the end
are the files of the keys that memory holds, under different names and without a draft among them.
What a store saves is such a payload: the text of its document, printable whatever document it
is. -/
theorem alikeBy_calls {start : FileTree Bytes} {directory : Text} {place : Path}
    (hempty : start.IsEmptyDirectory directory place) (others : FileTree Bytes)
    {cs : List TextCall} (hcs : ∀ c ∈ cs, c.raw.IsAccepted directory) :
    AlikeBy start place (cs.map TextCall.raw)
      (calls ⟨.directory directory, start⟩ (cs.map TextCall.raw))
      (calls ⟨.memory [], others⟩ (cs.map TextCall.raw)) ∧
    ∀ (around : Surroundings) (s : Store) (d : Option Document),
      ((d.getD s.document).write? .inline = none →
        (s.run around (.save d)).store.medium = s.medium) ∧
      ∀ payload, (d.getD s.document).write? .inline = some payload →
        (s.run around (.save d)).store.medium = (s.medium.write s.key (.text payload)).1 ∧
          (∀ c ∈ payload, IsPrintable c) ∧ '\r' ∉ payload := by
  have hdisk : InFiles start directory place ⟨.directory directory, start⟩ fun _ => none :=
    ⟨rfl, rfl, fun key hkey =>
      ((FileTree.at?_eq_none_iff start _).1 (hempty.empty _ hkey.isName_fileName)).2,
      fun _ _ => rfl, nofun⟩
  have hmemory : InMemory ⟨.memory [], others⟩ fun _ => none := ⟨[], rfl, fun _ _ => rfl⟩
  obtain ⟨hdiskAnswers, hfiles⟩ :=
    calls_of_call (fun _ _ _ h hc => InFiles.call hempty h hc) hdisk hcs
  obtain ⟨hmemoryAnswers, hslots⟩ :=
    calls_of_call (fun _ _ c h _ => InMemory.call h c) hmemory hcs
  refine ⟨.of_records hempty hcs hdiskAnswers hmemoryAnswers hfiles hslots,
    fun around s d => ⟨fun hnone => ?_, fun payload hpayload => ⟨?_, ?_, ?_⟩⟩⟩
  · exact congrArg Store.medium (s.store_commit_of_write?_none [] .done hnone)
  · exact s.medium_commit_of_write? [] .done hpayload
  · exact Store.isPrintable_of_write? hpayload
  · exact Store.return_not_mem_of_write? hpayload

/-- A directory without files, beside a file. -/
def besideFile : FileTree Bytes where
  directories := [[['d']]]
  files := [([['o']], [])]

/-- Nothing is in the directory. -/
lemma isEmptyDirectory_besideFile : besideFile.IsEmptyDirectory ['d', '/'] [['d']] :=
  ⟨by decide, by decide, fun name _ => by simp [FileTree.at?, FileTree.hasDirectoryAt,
    besideFile, Path.isOnTheWayUp, Path.isAbove, Path.top, Dictionary.get?_cons]⟩

/-- Calls under two keys, of which the last deletion fails. The one key is the name of the directory
above, and its payload is not printable. -/
def someCalls : List TextCall :=
  [.write ['.', '.'] ['é', '\n'], .read ['.', '.'], .holds ['a'], .write ['a'] [], .delete ['a'],
    .delete ['a'], .read ['a']]

/-- Some calls give back the same in an empty directory as in memory, and the text of a document
with a name that is not printable is printable. -/
theorem alikeBy_calls_someCalls :
    besideFile.IsEmptyDirectory ['d', '/'] [['d']] ∧
      (∀ c ∈ someCalls, c.raw.IsAccepted ['d', '/']) ∧
      (calls ⟨.directory ['d', '/'], besideFile⟩ (someCalls.map TextCall.raw)).2 =
        [.ok .nothing, .ok (.payload [.char 'é', .char '\n']), .ok (.truth false), .ok .nothing,
          .ok .nothing, .error (.noRecord [.char 'a']), .ok .nothing] ∧
      ∃ payload, (Document.empty ⟨['é'], []⟩).write? .inline = some payload ∧
        ∀ c ∈ payload, IsPrintable c := by
  have hcalls : ∀ c ∈ someCalls, c.raw.IsAccepted ['d', '/'] := by decide
  obtain ⟨halike, hsave⟩ := alikeBy_calls isEmptyDirectory_besideFile .empty hcalls
  exact ⟨isEmptyDirectory_besideFile, hcalls, halike.results, _, rfl,
    ((hsave ⟨[], [], fun _ => []⟩ (.shared false) (some (.empty ⟨['é'], []⟩))).2 _ rfl).2.1⟩

/-! ## Surrogates -/

/-- Two surrogates that stand for the bytes of a character. -/
def escaped : RawText :=
  [.surrogate 0x4C3, .surrogate 0x4A9]

/-- Calls with surrogates: in a key that has the name of another one, and in a payload. -/
def surrogateCalls : List BackendCall :=
  [.write (.ofText ['é']) (.ofText ['v']), .holds escaped,
    .write (.ofText ['a']) [.surrogate 0], .read (.ofText ['a'])]

/-- In a directory the two keys share a file, and the payload with a surrogate is not written. -/
lemma calls_directory_surrogateCalls :
    (calls ⟨.directory ['d', '/'], besideFile⟩ surrogateCalls).2 =
      [.ok .nothing, .ok (.truth true), .error .unencodable, .ok .nothing] := by
  decide

/-- In memory they do not, and it is. -/
lemma calls_memory_surrogateCalls :
    (calls ⟨.memory [], .empty⟩ surrogateCalls).2 =
      [.ok .nothing, .ok (.truth false), .ok .nothing, .ok (.payload [.surrogate 0])] := by
  decide

/-- Calls that are accepted can tell a directory from memory, if there are surrogates in them. -/
theorem not_forall_alike :
    ¬ ∀ (start : FileTree Bytes) (directory : Text) (place : Path) (others : FileTree Bytes)
      (cs : List BackendCall), start.IsEmptyDirectory directory place →
      (∀ c ∈ cs, c.IsAccepted directory) →
      (calls ⟨.directory directory, start⟩ cs).2 = (calls ⟨.memory [], others⟩ cs).2 := by
  intro hall
  have haccepted : ∀ c ∈ surrogateCalls, c.IsAccepted ['d', '/'] := by decide
  have hsame := hall besideFile ['d', '/'] [['d']] .empty surrogateCalls
    isEmptyDirectory_besideFile haccepted
  rw [calls_directory_surrogateCalls, calls_memory_surrogateCalls] at hsame
  simp at hsame

end CalledMedium

end EventPipeline
