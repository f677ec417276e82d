import EventPipeline.Proofs.FileTree
import Mathlib.Data.List.DropRight

/-!
# Files in a directory

The path of a name in a directory leads to the place of that name below the place of the directory
(`resolve_joinPath`), whether the path of the directory ends with a slash or not. A directory that
is there already is not made, and neither are those above it (`makeDirectories_of_leadsTo`).

Both come from `follow_front`: a path up to its last slash leads somewhere, and from there the name
behind the slash leads on.
-/

namespace EventPipeline.FileTree

variable {α : Type} {t : FileTree α}

/-! ## Paths piece by piece -/

/-- Names are followed one part after the other. -/
lemma follow_append (t : FileTree α) (start : Path) (front back : List Text) :
    t.follow start (front ++ back) =
      (t.follow start front).bind fun place => t.follow place back := by
  induction front generalizing start with
  | nil => rfl
  | cons name rest ih =>
    rw [List.cons_append, follow, follow]
    split
    · rfl
    · rfl
    · split
      · exact ih start
      split
      · exact ih _
      split
      · rfl
      · exact ih _

/-- Where a path begins. -/
def origin (path : Text) : Path :=
  if path.startsWith ['/'] then Path.top else []

/-- A path leads to a place if nothing is wrong with it and its names lead there. -/
lemma resolve_eq_ok_iff {path : Text} {place : Path} :
    t.resolve path = .ok place ↔
      pathFault? path = none ∧ t.follow (origin path) (path.splitOn '/') = .ok place := by
  rw [resolve, origin]
  cases pathFault? path <;> simp

/-- Where a path begins is seen from any part of it in front. -/
lemma origin_append {front : Text} (h : front ≠ []) (back : Text) :
    origin (front ++ back) = origin front := by
  obtain ⟨c, rest, rfl⟩ := List.exists_cons_of_ne_nil h
  simp [origin, Text.startsWith]

/-- A name without slashes is no absolute path. -/
lemma startsWith_slash_of_not_mem {name : Text} (h : '/' ∉ name) :
    name.startsWith ['/'] = false := by
  rw [Bool.eq_false_iff, ne_eq, Text.startsWith, List.isPrefixOf_iff_prefix]
  exact fun hslash => h (hslash.subset List.mem_cons_self)

/-- A slash between two parts of a path separates their names. -/
lemma follow_splitOn_append (start : Path) (front back : Text) :
    t.follow start ((front ++ '/' :: back).splitOn '/') =
      (t.follow start (front.splitOn '/')).bind fun place => t.follow place (back.splitOn '/') := by
  rw [List.splitOn_append_cons_self, follow_append]

/-- A name leads on only from a directory. -/
lemma hasDirectoryAt_of_follow {place final : Path} {name : Text}
    (h : t.follow place [name] = .ok final) : t.hasDirectoryAt place = true := by
  rw [follow] at h
  split at h
  · contradiction
  · contradiction
  · exact (at?_eq_directory_iff t place).1 ‹_›

/-- A blank name leads nowhere else. -/
lemma follow_here {place final : Path} {name : Text} (hname : Path.isHere name = true)
    (h : t.follow place [name] = .ok final) : final = place := by
  have hplace := (at?_eq_directory_iff t place).2 (hasDirectoryAt_of_follow h)
  rw [follow, hplace] at h
  dsimp only at h
  rw [if_pos hname] at h
  exact (Except.ok.inj h).symm

/-- An empty name leads nowhere else. -/
lemma follow_nil {place final : Path} (h : t.follow place [[]] = .ok final) : final = place :=
  follow_here rfl h

/-- Slashes behind a path do not count. -/
lemma follow_append_slashes {start place : Path} {path : Text} {count : Nat}
    (h : t.follow start ((path ++ List.replicate count '/').splitOn '/') = .ok place) :
    t.follow start (path.splitOn '/') = .ok place := by
  induction count with
  | zero => rwa [List.replicate_zero, List.append_nil] at h
  | succ count ih =>
    rw [List.replicate_succ', ← List.append_assoc, follow_splitOn_append] at h
    cases hfront : t.follow start ((path ++ List.replicate count '/').splitOn '/') with
    | error e =>
      rw [hfront] at h
      contradiction
    | ok place' =>
      rw [hfront] at h
      have hsame : place = place' := follow_nil h
      exact ih (hsame ▸ hfront)

/-- A path is what is left without the slashes at its end, and these. -/
lemma exists_withoutSlashes_append (path : Text) :
    ∃ count, path = withoutSlashes path ++ List.replicate count '/' := by
  refine ⟨(path.rtakeWhile (· == '/')).length, ?_⟩
  have hslashes : path.rtakeWhile (· == '/') =
      List.replicate (path.rtakeWhile (· == '/')).length '/' :=
    List.eq_replicate_of_mem fun c hc => by
      simpa using List.mem_rtakeWhile_imp hc
  rw [← hslashes]
  exact List.rdropWhile_append_rtakeWhile.symm

/-! ## The last name of a path -/

/-- A part of a path that stands in front of a name: nothing, or something up to a slash. -/
def IsFront (front : Text) : Prop :=
  front = [] ∨ ∃ rest, front = rest ++ ['/']

/-- Where a part in front of a name leads. -/
def followFront (t : FileTree α) (front : Text) : Except PathError Path :=
  if front = [] then .ok [] else t.follow (origin front) (front.dropLast.splitOn '/')

/-- A path is a part in front and a name. -/
lemma splitLast_spec (path : Text) :
    path = (splitLast path).1 ++ (splitLast path).2 ∧ IsFront (splitLast path).1 ∧
      '/' ∉ (splitLast path).2 := by
  have hparts : path.rdropWhile (· != '/') ++ path.rtakeWhile (· != '/') = path :=
    List.rdropWhile_append_rtakeWhile
  have htake : ∀ front name : Text, front ++ name = path →
      path.take (path.length - name.length) = front := by
    rintro front name rfl
    simp
  have hsplit : splitLast path = (path.rdropWhile (· != '/'), path.rtakeWhile (· != '/')) :=
    Prod.ext (htake _ _ hparts) rfl
  rw [hsplit]
  refine ⟨hparts.symm, ?_, fun hslash => ?_⟩
  · by_cases hne : path.rdropWhile (· != '/') = []
    · exact .inl hne
    · have hlast : (path.rdropWhile (· != '/')).getLast hne = '/' := by
        simpa using List.rdropWhile_last_not (· != '/') path hne
      exact .inr ⟨_, (hlast ▸ List.dropLast_append_getLast hne).symm⟩
  · simpa using List.mem_rtakeWhile_imp hslash

/-- A path leads where its name leads from where the part in front leads. -/
lemma follow_front {front name : Text} (hfront : IsFront front) (hname : '/' ∉ name) :
    t.follow (origin (front ++ name)) ((front ++ name).splitOn '/') =
      (t.followFront front).bind fun place => t.follow place [name] := by
  rcases hfront with rfl | ⟨rest, rfl⟩
  · rw [List.nil_append, origin, startsWith_slash_of_not_mem hname,
      List.splitOn_eq_singleton hname]
    rfl
  · have hne : rest ++ ['/'] ≠ [] := by simp
    rw [origin_append hne, followFront, if_neg hne, List.dropLast_concat, List.append_assoc,
      List.singleton_append, follow_splitOn_append, List.splitOn_eq_singleton hname]

/-- A path that leads somewhere does so by way of the part in front of its name. -/
lemma exists_of_resolve_front {front name : Text} {place : Path} (hfront : IsFront front)
    (hname : '/' ∉ name) (h : t.resolve (front ++ name) = .ok place) :
    ∃ parent, t.followFront front = .ok parent ∧ t.follow parent [name] = .ok place := by
  have hfollow := (resolve_eq_ok_iff.1 h).2
  rw [follow_front hfront hname] at hfollow
  cases hparent : t.followFront front with
  | error e =>
    rw [hparent] at hfollow
    contradiction
  | ok parent =>
    rw [hparent] at hfollow
    exact ⟨parent, rfl, hfollow⟩

/-! ## Paths in a directory -/

/-- A name for what stands in a directory. -/
structure IsName (name : Text) : Prop where
  /-- It does not stand for the directory. -/
  here : Path.isHere name = false
  /-- It does not stand for the directory above. -/
  above : Path.isAbove name = false
  /-- It holds no slash. -/
  slash : '/' ∉ name

/-- A name that is not too long leads from a directory to the place below it. -/
lemma follow_name {place : Path} (hplace : t.hasDirectoryAt place = true) {name : Text}
    (hname : IsName name) (hsize : byteSize name ≤ nameLimit) :
    t.follow place [name] = .ok (place ++ [name]) := by
  rw [follow, (at?_eq_directory_iff t place).2 hplace]
  dsimp only
  rw [hname.here, hname.above, if_neg Bool.false_ne_true, if_neg Bool.false_ne_true,
    if_neg (Nat.not_lt.2 hsize)]
  rfl

/-- A name leads to no other place than the one below. -/
lemma eq_of_follow_name {place final : Path} {name : Text} (hname : IsName name)
    (h : t.follow place [name] = .ok final) : final = place ++ [name] := by
  have hplace := (at?_eq_directory_iff t place).2 (hasDirectoryAt_of_follow h)
  rw [follow, hplace] at h
  dsimp only at h
  rw [hname.here, hname.above, if_neg Bool.false_ne_true, if_neg Bool.false_ne_true] at h
  split at h
  · contradiction
  · exact (Except.ok.inj h).symm

/-- The part in front of a name that is joined to the path of a directory, leads to the
directory. -/
lemma exists_front_joinPath {directory name : Text} {place : Path}
    (h : t.resolve directory = .ok place) (hname : IsName name) :
    ∃ front, joinPath directory name = front ++ name ∧ IsFront front ∧
      t.followFront front = .ok place := by
  obtain ⟨hfault, hfollow⟩ := resolve_eq_ok_iff.1 h
  have hne : directory ≠ [] := by
    rintro rfl
    contradiction
  have hempty : directory.isEmpty = false := by simpa using hne
  rw [joinPath, startsWith_slash_of_not_mem hname.slash, if_neg Bool.false_ne_true, hempty,
    Bool.false_or]
  cases hslash : directory.endsWith ['/'] with
  | true =>
    obtain ⟨rest, rfl⟩ := List.isSuffixOf_iff_suffix.1 hslash
    refine ⟨_, if_pos rfl, .inr ⟨rest, rfl⟩, ?_⟩
    rw [follow_splitOn_append] at hfollow
    rw [followFront, if_neg hne, List.dropLast_concat]
    cases hrest : t.follow (origin (rest ++ ['/'])) (rest.splitOn '/') with
    | error e =>
      rw [hrest] at hfollow
      contradiction
    | ok place' =>
      rw [hrest] at hfollow
      rw [follow_nil hfollow]
  | false =>
    refine ⟨directory ++ ['/'], by simp, .inr ⟨directory, rfl⟩, ?_⟩
    rwa [followFront, if_neg (by simp), origin_append hne, List.dropLast_concat]

/-- The path of a name in a directory leads to the place below that of the directory, if neither the
name nor the path is too long. -/
lemma resolve_joinPath {directory name : Text} {place : Path} (h : t.resolve directory = .ok place)
    (hplace : t.hasDirectoryAt place = true) (hname : IsName name)
    (hsize : byteSize name ≤ nameLimit) (hfault : pathFault? (joinPath directory name) = none) :
    t.resolve (joinPath directory name) = .ok (place ++ [name]) := by
  refine resolve_eq_ok_iff.2 ⟨hfault, ?_⟩
  obtain ⟨front, hjoin, hfront, hfollow⟩ := exists_front_joinPath h hname
  rw [hjoin, follow_front hfront hname.slash, hfollow]
  exact follow_name hplace hname hsize

/-- An empty directory at the place that a path leads to. -/
structure IsEmptyDirectory (t : FileTree α) (path : Text) (place : Path) : Prop where
  /-- The path leads to the place. -/
  leads : t.resolve path = .ok place
  /-- A directory stands at the place. -/
  directory : t.hasDirectoryAt place = true
  /-- Nothing stands in the directory. -/
  empty : ∀ name, IsName name → t.at? (place ++ [name]) = none

/-! ## Directories that are there -/

/-- A path that leads to a directory. -/
def LeadsTo (t : FileTree α) (path : Text) : Prop :=
  ∃ place, t.resolve path = .ok place ∧ t.hasDirectoryAt place = true

/-- Whether there is a directory at a path. -/
lemma isDirectory_iff {path : Text} : t.isDirectory path = true ↔ t.LeadsTo path := by
  rw [isDirectory, LeadsTo, find]
  cases t.resolve path with
  | error e => simp
  | ok place =>
    simp only [Except.ok.injEq, exists_eq_left', ← at?_eq_directory_iff]
    cases t.at? place with
    | none => simp
    | some entry => cases entry <;> simp

/-- There is something at a path that leads to a directory. -/
lemma exists?_of_leadsTo {path : Text} (h : t.LeadsTo path) : t.exists? path = true := by
  obtain ⟨place, hresolve, hplace⟩ := h
  rw [exists?, find, hresolve]
  dsimp only
  rw [(at?_eq_directory_iff t place).2 hplace]
  rfl

/-- The number of bytes of two texts is that of both. -/
lemma byteSize_append (s s' : Text) : byteSize (s ++ s') = byteSize s + byteSize s' := by
  have hfrom : ∀ (s : Text) (size : Nat),
      s.foldl (fun size c => size + c.utf8Size) size = size + byteSize s := by
    intro s
    induction s with
    | nil => exact fun _ => rfl
    | cons c s ih =>
      intro size
      rw [byteSize, List.foldl_cons, List.foldl_cons, ih, ih, Nat.zero_add, Nat.add_assoc]
  rw [byteSize, List.foldl_append, hfrom s', ← byteSize]

/-- Nothing is wrong with a part of a path in front. -/
lemma pathFault?_of_append {front back : Text} (hne : front ≠ [])
    (h : pathFault? (front ++ back) = none) : pathFault? front = none := by
  unfold pathFault? at h ⊢
  have hsize := byteSize_append front back
  have hempty : front.isEmpty = false := by simpa using hne
  rw [hempty, if_neg Bool.false_ne_true]
  split at h
  · contradiction
  split at h
  · contradiction
  rename_i hnull
  split at h
  · contradiction
  rename_i hlimit
  have hnull' : ¬ front.contains (Char.ofNat 0) = true := by
    simp only [List.contains_iff_mem, List.mem_append, not_or] at hnull ⊢
    exact hnull.1
  rw [if_neg hnull', if_neg (by omega)]

/-- The part in front of the name of a path that leads somewhere leads to a directory, if it is
not empty. -/
lemma leadsTo_front {front name : Text} {place : Path} (hfront : IsFront front)
    (hname : '/' ∉ name) (hne : front ≠ []) (h : t.resolve (front ++ name) = .ok place) :
    t.LeadsTo front := by
  obtain ⟨parent, hparent, hfollow⟩ := exists_of_resolve_front hfront hname h
  have hdirectory := hasDirectoryAt_of_follow hfollow
  have hfault := pathFault?_of_append hne (resolve_eq_ok_iff.1 h).1
  have hhere : t.follow parent [[]] = .ok parent := by
    rw [follow, (at?_eq_directory_iff t parent).2 hdirectory]
    rfl
  have hsame := follow_front (t := t) hfront (List.not_mem_nil (a := '/'))
  rw [List.append_nil, hparent] at hsame
  exact ⟨parent, resolve_eq_ok_iff.2 ⟨hfault, hsame.trans hhere⟩, hdirectory⟩

/-- The slashes at the end of a path that leads to a directory can be left out, if it is not only
slashes. -/
lemma leadsTo_withoutSlashes {path : Text} (h : t.LeadsTo path) (hne : withoutSlashes path ≠ []) :
    t.LeadsTo (withoutSlashes path) := by
  obtain ⟨place, hresolve, hplace⟩ := h
  obtain ⟨hfault, hfollow⟩ := resolve_eq_ok_iff.1 hresolve
  obtain ⟨count, hpath⟩ := exists_withoutSlashes_append path
  rw [hpath] at hfault hfollow
  rw [origin_append hne] at hfollow
  exact ⟨place, resolve_eq_ok_iff.2 ⟨pathFault?_of_append hne hfault,
    follow_append_slashes hfollow⟩, hplace⟩

/-- What stands in front of the last name of a path, without the slashes behind it if it is not only
slashes. -/
def frontOf (path : Text) : Text :=
  if (splitLast path).1.all (· == '/') then (splitLast path).1
  else withoutSlashes (splitLast path).1

/-- The parent of a path stands in front of its name, which slashes may follow. -/
lemma splitParent_fst (path : Text) :
    (splitParent path).1 =
      if (splitLast path).2.isEmpty then frontOf (frontOf path) else frontOf path := by
  unfold splitParent
  dsimp only
  split <;> rfl

/-- What stands in front of the last name of a path that leads to a directory leads to a directory,
if it is not empty. -/
lemma leadsTo_frontOf {path : Text} (h : t.LeadsTo path) (hne : frontOf path ≠ []) :
    t.LeadsTo (frontOf path) := by
  obtain ⟨place, hresolve, hplace⟩ := h
  obtain ⟨hpath, hfront, hname⟩ := splitLast_spec path
  rw [hpath] at hresolve
  unfold frontOf at hne ⊢
  split
  · rename_i hslashes
    rw [if_pos hslashes] at hne
    exact leadsTo_front hfront hname hne hresolve
  · rename_i hslashes
    rw [if_neg hslashes] at hne
    have hfront_ne : (splitLast path).1 ≠ [] := fun hempty => hslashes (by simp [hempty])
    exact leadsTo_withoutSlashes (leadsTo_front hfront hname hfront_ne hresolve) hne

/-- The parent of a path that leads to a directory, if it has one, leads to a directory. -/
lemma leadsTo_splitParent {path : Text} (h : t.LeadsTo path) (hne : (splitParent path).1 ≠ []) :
    t.LeadsTo (splitParent path).1 := by
  rw [splitParent_fst] at hne ⊢
  split
  · rename_i hname
    rw [if_pos hname] at hne
    have hfirst : frontOf path ≠ [] := fun hempty => hne (by rw [hempty]; rfl)
    exact leadsTo_frontOf (leadsTo_frontOf h hfirst) hne
  · rename_i hname
    rw [if_neg hname] at hne
    exact leadsTo_frontOf h hne

/-- A directory that is there cannot be made. -/
lemma makeDirectory_ne_ok {path : Text} (h : t.LeadsTo path) (t' : FileTree α) :
    t.makeDirectory path ≠ .ok t' := by
  intro hmade
  unfold makeDirectory at hmade
  split at hmade
  · contradiction
  dsimp only at hmade
  split at hmade
  · contradiction
  rename_i parent hparent
  split at hmade
  · contradiction
  rename_i hname
  split at hmade
  · contradiction
  split at hmade
  · contradiction
  rename_i hfree
  obtain ⟨hpath, hfront, hslash⟩ := splitLast_spec (withoutSlashes path)
  rw [Bool.or_eq_true, not_or, Bool.not_eq_true, Bool.not_eq_true] at hname
  have hne : withoutSlashes path ≠ [] := by
    intro hempty
    rw [hempty] at hname
    exact absurd hname.1 (by decide)
  obtain ⟨place, hresolve, hplace⟩ := leadsTo_withoutSlashes h hne
  rw [hpath] at hresolve
  obtain ⟨parent', hparent', hfollow⟩ := exists_of_resolve_front hfront hslash hresolve
  obtain ⟨parent'', hparent'', hdot⟩ := exists_of_resolve_front hfront (by decide) hparent
  obtain rfl : parent' = parent'' := Except.ok.inj (hparent'.symm.trans hparent'')
  obtain rfl := follow_here rfl hdot
  rw [eq_of_follow_name ⟨hname.1, hname.2, hslash⟩ hfollow] at hplace
  exact hfree (by rw [(at?_eq_directory_iff t _).2 hplace]; rfl)

/-- A directory that is there is left as it is when it is to be made. -/
lemma makeDirectories_of_leadsTo {path : Text} (h : t.LeadsTo path) :
    t.makeDirectories path = (t, .ok ()) := by
  obtain ⟨e, hmade⟩ : ∃ e, t.makeDirectory path = .error e := by
    cases hmade : t.makeDirectory path with
    | ok t' => exact absurd hmade (makeDirectory_ne_ok h t')
    | error e => exact ⟨e, rfl⟩
  rw [makeDirectories, makeDirectoriesWithin]
  dsimp only
  rw [hmade]
  dsimp only
  rw [if_pos (isDirectory_iff.2 h)]
  split
  · rfl
  · rename_i hparent
    simp only [Bool.or_eq_true, not_or] at hparent
    have hne : (splitParent path).1 ≠ [] := by simpa using hparent.1.1
    exact absurd (exists?_of_leadsTo (leadsTo_splitParent h hne)) hparent.2

end EventPipeline.FileTree
