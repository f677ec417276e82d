import Mathlib.Data.List.Forall2
import Mathlib.Tactic.Common

/-!
# Results that succeed

What a result comes from that succeeds after something was done to it: the failure was put another
way, or the value was, something went on with the value, or it was one of a list of results.
-/

namespace EventPipeline

variable {ε ε' α β : Type}

/-- Whether a result succeeds can be seen without the value. -/
lemma isOk_iff_exists {x : Except ε α} : x.isOk = true ↔ ∃ a, x = .ok a := by
  cases x with
  | error e => exact ⟨nofun, nofun⟩
  | ok a => exact ⟨fun _ => ⟨a, rfl⟩, fun _ => rfl⟩

/-- A result succeeds with the value that it has without the failure. -/
lemma toOption_eq_some_iff {x : Except ε α} {a : α} : x.toOption = some a ↔ x = .ok a := by
  cases x <;> simp [Except.toOption]

/-- Putting the failure another way gives a success only for that success. -/
lemma mapError_eq_ok_iff {f : ε → ε'} {x : Except ε α} {a : α} :
    x.mapError f = .ok a ↔ x = .ok a := by
  cases x with
  | error e => exact ⟨nofun, nofun⟩
  | ok b => exact ⟨fun h => congrArg Except.ok (Except.ok.inj h), fun h => h ▸ rfl⟩

/-- Putting the value another way gives a success only for a success. -/
lemma map_eq_ok_iff {f : α → β} {x : Except ε α} {b : β} :
    x.map f = .ok b ↔ ∃ a, x = .ok a ∧ f a = b := by
  cases x with
  | error e => exact ⟨nofun, nofun⟩
  | ok a =>
    constructor
    · exact fun h => ⟨a, rfl, Except.ok.inj h⟩
    · rintro ⟨a', h, rfl⟩
      rw [Except.ok.inj h]
      rfl

/-- A check of every item of a list gives the results of the items. -/
lemma mapM_eq_ok_iff {f : α → Except ε β} {l : List α} {r : List β} :
    l.mapM f = .ok r ↔ List.Forall₂ (fun a b => f a = .ok b) l r := by
  induction l generalizing r with
  | nil =>
    rw [List.mapM_nil, List.forall₂_nil_left_iff]
    exact ⟨fun h => (Except.ok.inj h).symm, fun h => congrArg Except.ok h.symm⟩
  | cons a l ih =>
    rw [List.mapM_cons, List.forall₂_cons_left_iff]
    cases ha : f a with
    | error e => exact ⟨nofun, fun ⟨_, _, hb, _⟩ => nomatch hb⟩
    | ok b =>
      cases hl : l.mapM f with
      | error e =>
        refine ⟨nofun, fun ⟨_, r', _, hr', _⟩ => ?_⟩
        rw [← ih, hl] at hr'
        contradiction
      | ok bs =>
        constructor
        · intro h
          exact ⟨b, bs, rfl, ih.1 hl, (Except.ok.inj h).symm⟩
        · rintro ⟨b', bs', hb, hbs, rfl⟩
          obtain rfl := Except.ok.inj hb
          obtain rfl := Except.ok.inj (hl.symm.trans (ih.2 hbs))
          rfl

end EventPipeline
