import EventPipeline.FileTree
import EventPipeline.Proofs.Result

/-!
# What changing a file tree leaves alone

A file that is written changes one place, which its path still leads to afterwards
(`exists_place_of_write`). To make a new file and to move it to a path is to write there
(`move_putAt_eq_ok_iff`), and a new file that is removed leaves no trace. Making directories changes
no file (`files_makeDirectories`), whether it succeeds or not, and what could be read before is read
as before (`read_makeDirectories`). All of this rests on the fact that a path that led to a place
leads there as long as the directories stay (`resolve_mono`).
-/

namespace EventPipeline.FileTree

variable {α : Type}

/-! ## Paths -/

/-- A directory stands where the tree has one. -/
lemma at?_eq_directory_iff (t : FileTree α) (place : Path) :
    t.at? place = some .directory ↔ t.hasDirectoryAt place = true := by
  rw [at?]
  split
  · simp [*]
  · cases t.files.get? place <;> simp [*]

/-- Nothing stands at a place that has neither a directory nor a file. -/
lemma at?_eq_none_iff (t : FileTree α) (place : Path) :
    t.at? place = none ↔ t.hasDirectoryAt place = false ∧ t.files.get? place = none := by
  rw [at?]
  cases t.hasDirectoryAt place <;> simp

/-- A tree that keeps the directories of another one keeps every path that led to a place. -/
lemma follow_mono {t t' : FileTree α}
    (hkept : ∀ place, t.hasDirectoryAt place = true → t'.hasDirectoryAt place = true)
    {start final : Path} {names : List Text} (h : t.follow start names = .ok final) :
    t'.follow start names = .ok final := by
  induction names generalizing start with
  | nil => exact h
  | cons name rest ih =>
    rw [follow] at h ⊢
    cases hstart : t.at? start with
    | none =>
      rw [hstart] at h
      contradiction
    | some entry =>
      rw [hstart] at h
      cases entry with
      | file contents => contradiction
      | directory =>
        have hstill : t'.at? start = some .directory :=
          (at?_eq_directory_iff t' start).2 (hkept start ((at?_eq_directory_iff t start).1 hstart))
        rw [hstill]
        dsimp only at h ⊢
        split
        · rw [if_pos ‹_›] at h
          exact ih h
        rw [if_neg ‹_›] at h
        split
        · rw [if_pos ‹_›] at h
          exact ih h
        rw [if_neg ‹_›] at h
        split
        · rw [if_pos ‹_›] at h
          contradiction
        rw [if_neg ‹_›] at h
        exact ih h

/-- A tree that keeps the directories of another one keeps every path that led to a place. -/
lemma resolve_mono {t t' : FileTree α}
    (hkept : ∀ place, t.hasDirectoryAt place = true → t'.hasDirectoryAt place = true)
    {path : Text} {final : Path} (h : t.resolve path = .ok final) :
    t'.resolve path = .ok final := by
  unfold resolve at h ⊢
  split at h
  · contradiction
  · exact follow_mono hkept h

/-- A file keeps every path that led to a place. -/
lemma resolve_putAt {t : FileTree α} (place : Path) (contents : α) {path : Text} {final : Path}
    (h : t.resolve path = .ok final) : (t.putAt place contents).resolve path = .ok final := by
  refine resolve_mono (fun other hother => ?_) h
  rwa [hasDirectoryAt_putAt]

/-- A file is read where its path leads. -/
lemma read_eq_ok_iff {t : FileTree α} {path : Text} {contents : α} :
    t.read path = .ok contents ↔
      ∃ place, t.resolve path = .ok place ∧ t.at? place = some (.file contents) := by
  rw [read, find]
  cases t.resolve path with
  | error e => simp
  | ok place =>
    simp only [Except.ok.injEq, exists_eq_left']
    cases t.at? place with
    | none => simp
    | some entry => cases entry <;> simp

/-- A tree that keeps what stands at the places of another one keeps every file that was read. -/
lemma read_mono {t t' : FileTree α}
    (hkept : ∀ place entry, t.at? place = some entry → t'.at? place = some entry)
    {path : Text} {contents : α} (h : t.read path = .ok contents) :
    t'.read path = .ok contents := by
  have hdirectories : ∀ place, t.hasDirectoryAt place = true → t'.hasDirectoryAt place = true :=
    fun place hplace => (at?_eq_directory_iff t' place).1
      (hkept place _ ((at?_eq_directory_iff t place).2 hplace))
  obtain ⟨place, hresolve, hfile⟩ := read_eq_ok_iff.1 h
  exact read_eq_ok_iff.2 ⟨place, resolve_mono hdirectories hresolve, hkept place _ hfile⟩

/-! ## Writing -/

/-- A file can be written where its path leads, if that is not the place of a directory. -/
lemma writablePlace_eq_ok_iff {t : FileTree α} {path : Text} {place : Path} :
    t.writablePlace path = .ok place ↔
      path.endsWith ['/'] = false ∧ t.resolve path = .ok place ∧
        t.hasDirectoryAt place = false := by
  unfold writablePlace
  split
  · rename_i hfault
    simp [resolve, hfault]
  split
  · rename_i hslash
    cases t.directoryOf (splitLast (withoutSlashes path)).1 <;> simp [hslash, Except.bind]
  · rename_i hslash
    cases hresolve : t.resolve path with
    | error e => simp
    | ok final =>
      have hfinal : ∀ {p : Prop}, (Except.ok final = (.ok place : Except PathError Path) ∧ p) ↔
          final = place ∧ p := by simp
      dsimp only
      split
      · rename_i hdirectory
        rw [at?_eq_directory_iff] at hdirectory
        rw [hfinal]
        refine ⟨nofun, ?_⟩
        rintro ⟨-, rfl, hplace⟩
        rw [hdirectory] at hplace
        contradiction
      · rename_i hfree
        have hdirectory : t.hasDirectoryAt final = false :=
          Bool.eq_false_iff.2 fun h => hfree ((at?_eq_directory_iff t final).2 h)
        rw [hfinal]
        constructor
        · intro hplace
          obtain rfl := Except.ok.inj hplace
          exact ⟨Bool.eq_false_iff.2 hslash, rfl, hdirectory⟩
        · rintro ⟨-, rfl, -⟩
          rfl

/-- A file is written to the place that its path leads to, where no directory is. -/
lemma exists_place_of_write {t t' : FileTree α} {path : Text} {contents : α}
    (h : t.write path contents = .ok t') :
    ∃ place, t.resolve path = .ok place ∧ t.hasDirectoryAt place = false ∧
      t' = t.putAt place contents := by
  obtain ⟨place, hplace, rfl⟩ := map_eq_ok_iff.1 h
  obtain ⟨-, hresolve, hdirectory⟩ := writablePlace_eq_ok_iff.1 hplace
  exact ⟨place, hresolve, hdirectory, rfl⟩

/-- A file that was put where its path leads is read there. -/
lemma read_putAt_self {t : FileTree α} {path : Text} {place : Path} (contents : α)
    (h : t.writablePlace path = .ok place) : (t.putAt place contents).read path = .ok contents := by
  obtain ⟨-, hresolve, hdirectory⟩ := writablePlace_eq_ok_iff.1 h
  exact read_eq_ok_iff.2 ⟨place, resolve_putAt place contents hresolve,
    at?_putAt_self t contents hdirectory⟩

/-- A file that was put elsewhere leaves a file as it was. -/
lemma read_putAt_of_ne {t : FileTree α} {path : Text} {place other : Path} {contents : α}
    (hresolve : t.resolve path = .ok place) (hne : place ≠ other)
    (h : t.read path = .ok contents) (others : α) :
    (t.putAt other others).read path = .ok contents := by
  obtain ⟨place', hresolve', hfile⟩ := read_eq_ok_iff.1 h
  obtain rfl := Except.ok.inj (hresolve.symm.trans hresolve')
  exact read_eq_ok_iff.2 ⟨place, resolve_putAt other others hresolve,
    (at?_putAt_of_ne t others hne).trans hfile⟩

/-- A file that was put somewhere leaves a place where files can be written. -/
lemma writablePlace_putAt {t : FileTree α} {path : Text} {place : Path}
    (h : t.writablePlace path = .ok place) (other : Path) (contents : α) :
    (t.putAt other contents).writablePlace path = .ok place := by
  obtain ⟨hslash, hresolve, hdirectory⟩ := writablePlace_eq_ok_iff.1 h
  exact writablePlace_eq_ok_iff.2 ⟨hslash, resolve_putAt other contents hresolve, hdirectory⟩

/-- A file that was put somewhere makes no place where files can be written. -/
lemma writablePlace_of_putAt {t : FileTree α} {path : Text} {place other : Path} {contents : α}
    (h : (t.putAt other contents).writablePlace path = .ok place) :
    t.writablePlace path = .ok place := by
  have hkept : ∀ p, (t.putAt other contents).hasDirectoryAt p = true → t.hasDirectoryAt p = true :=
    fun _ hp => hp
  obtain ⟨hslash, hresolve, hdirectory⟩ := writablePlace_eq_ok_iff.1 h
  exact writablePlace_eq_ok_iff.2 ⟨hslash, resolve_mono hkept hresolve, hdirectory⟩

/-- A file that was written is read at its path. -/
lemma read_of_write {t t' : FileTree α} {path : Text} {contents : α}
    (h : t.write path contents = .ok t') : t'.read path = .ok contents := by
  obtain ⟨place, hplace, rfl⟩ := map_eq_ok_iff.1 h
  exact read_putAt_self contents hplace

/-! ## New files -/

/-- Nothing stands at the place of a new file. -/
lemma at?_of_newPlace {t : FileTree α} {path : Nat → Text} {tries attempt : Nat} {place : Path}
    (h : t.newPlace path tries attempt = .ok place) : t.at? place = none := by
  induction tries generalizing attempt with
  | zero => contradiction
  | succ tries ih =>
    rw [newPlace] at h
    split at h
    · contradiction
    split at h
    · exact ih h
    · rename_i hfree
      rw [← Except.ok.inj h]
      simpa using hfree

/-- The first path leads to the place of a new file, if nothing stands there. -/
lemma newPlace_of_at?_none {t : FileTree α} {path : Nat → Text} {attempt : Nat} {place : Path}
    (tries : Nat) (hresolve : t.resolve (path attempt) = .ok place) (h : t.at? place = none) :
    t.newPlace path (tries + 1) attempt = .ok place := by
  rw [newPlace, hresolve]
  dsimp only
  rw [h]
  rfl

/-- A new file that is removed leaves no trace. -/
lemma removeAt_putAt {t : FileTree α} {place : Path} (contents : α) (h : t.at? place = none) :
    (t.putAt place contents).removeAt place = t := by
  have hfile := ((at?_eq_none_iff t place).1 h).2
  rw [removeAt, putAt]
  exact congrArg (FileTree.mk t.directories) (Dictionary.erase_put hfile contents)

/-- Moving a new file to a path does what writing its contents there does. -/
lemma move_putAt_eq_ok_iff {t t' : FileTree α} {place : Path} {path : Text} {contents : α}
    (h : t.at? place = none) :
    (t.putAt place contents).move place path = .ok t' ↔ t.write path contents = .ok t' := by
  have hfile : (t.putAt place contents).files.get? place = some contents :=
    Dictionary.get?_put_self _ _ _
  rw [move, hfile, write, map_eq_ok_iff]
  constructor
  · intro hmove
    split at hmove
    · contradiction
    · rename_i hnone
      contradiction
    · rename_i final moved hplace hmoved
      obtain rfl := Option.some.inj hmoved
      rw [removeAt_putAt _ h] at hmove
      exact ⟨final, writablePlace_of_putAt hplace, Except.ok.inj hmove⟩
  · rintro ⟨final, hplace, rfl⟩
    rw [writablePlace_putAt hplace]
    dsimp only
    rw [removeAt_putAt _ h]

/-! ## Directories -/

/-- A new directory stands where nothing was. -/
lemma exists_place_of_makeDirectory {t t' : FileTree α} {path : Text}
    (h : t.makeDirectory path = .ok t') : ∃ place, t.at? place = none ∧
      t' = { t with directories := t.directories ++ [place] } := by
  unfold makeDirectory at h
  split at h
  · contradiction
  dsimp only at h
  split at h
  · contradiction
  split at h
  · contradiction
  split at h
  · contradiction
  split at h
  · contradiction
  · rename_i parent _ _ _ hfree
    rw [Option.not_isSome_iff_eq_none] at hfree
    have hdirectory : ¬ t.hasDirectoryAt (parent ++ [(splitLast (withoutSlashes path)).2]) = true :=
      fun hplace => absurd ((at?_eq_directory_iff t _).2 hplace) (by simp [hfree])
    refine ⟨_, hfree, ?_⟩
    rw [← Except.ok.inj h, addDirectoryAt, if_neg hdirectory]

/-- A new directory changes no file. -/
lemma files_makeDirectory {t t' : FileTree α} {path : Text} (h : t.makeDirectory path = .ok t') :
    t'.files = t.files := by
  obtain ⟨place, -, rfl⟩ := exists_place_of_makeDirectory h
  rfl

/-- A new directory leaves everything where it was. -/
lemma at?_makeDirectory {t t' : FileTree α} {path : Text} (h : t.makeDirectory path = .ok t')
    {place : Path} {entry : Entry α} (hentry : t.at? place = some entry) :
    t'.at? place = some entry := by
  obtain ⟨new, hnew, rfl⟩ := exists_place_of_makeDirectory h
  have hne : place ≠ new := by
    rintro rfl
    rw [hnew] at hentry
    contradiction
  rw [← hentry]
  simp [at?, hasDirectoryAt, hne]

/-- What every new directory keeps is kept by making directories, whether it succeeds or not. -/
lemma makeDirectories_induction {motive : FileTree α → Prop}
    (hstep : ∀ t t' path, motive t → t.makeDirectory path = .ok t' → motive t') {t : FileTree α}
    (h : motive t) (path : Text) : motive (t.makeDirectories path).1 := by
  have hwithin : ∀ limit path, motive (t.makeDirectoriesWithin limit path).1 := by
    intro limit
    induction limit with
    | zero => exact fun _ => h
    | succ limit ih =>
      intro path
      have hparent := ih (splitParent path).1
      unfold makeDirectoriesWithin
      dsimp only
      split
      · split
        · exact hstep _ _ _ h ‹_›
        · exact h
      · cases hmade : t.makeDirectoriesWithin limit (splitParent path).1 with
        | mk t' result =>
          rw [hmade] at hparent
          cases result with
          | ok _ =>
            dsimp only
            split
            · exact hparent
            · split
              · exact hstep _ _ _ hparent ‹_›
              · exact hparent
          | error e =>
            cases e with
            | alreadyExists =>
              dsimp only
              split
              · exact hparent
              · split
                · exact hstep _ _ _ hparent ‹_›
                · exact hparent
            | _ => exact hparent
  exact hwithin _ path

/-- Making directories changes no file, whether it succeeds or not. -/
lemma files_makeDirectories (t : FileTree α) (path : Text) :
    (t.makeDirectories path).1.files = t.files :=
  makeDirectories_induction (motive := fun u => u.files = t.files)
    (fun _ _ _ hu hmade => (files_makeDirectory hmade).trans hu) rfl path

/-- A file that can be read is read as before when directories were made. -/
lemma read_makeDirectories {t : FileTree α} {path : Text} {contents : α}
    (h : t.read path = .ok contents) (made : Text) :
    (t.makeDirectories made).1.read path = .ok contents :=
  read_mono (fun place entry hentry =>
    makeDirectories_induction (motive := fun u => u.at? place = some entry)
      (fun _ _ _ hu hmade => at?_makeDirectory hmade hu) hentry made) h

end EventPipeline.FileTree
