import EventPipeline.Script.Value

/-!
# When values of scripts are the same value

`Value.same` is equality as scripts see it, which takes `1` and `True` for the same.
`Value.isIdentical` tells values apart that differ in any part, so that equality of values can be
decided.
-/

namespace EventPipeline.Script.Value

mutual

/-- Whether two values are one and the same. -/
def isIdentical : Value → Value → Bool
  | null, null => true
  | bool a, bool b => decide (a = b)
  | int m, int n => decide (m = n)
  | float x, float y => decide (x = y)
  | complex z, complex w => decide (z = w)
  | text s, text t => decide (s = t)
  | bytes s, bytes t => decide (s = t)
  | list vs, list ws => areIdentical vs ws
  | tuple vs, tuple ws => areIdentical vs ws
  | set vs, set ws => areIdentical vs ws
  | mapping es, mapping fs => areIdenticalEntries es fs
  | view s vs, view t ws => decide (s = t) && areIdentical vs ws
  | range a b c, range a' b' c' => decide (a = a' ∧ b = b' ∧ c = c')
  | slice a b c, slice a' b' c' => isIdentical a a' && (isIdentical b b' && isIdentical c c')
  | type s, type t => decide (s = t)
  | filledType s vs, filledType t ws => decide (s = t) && areIdentical vs ws
  | union vs, union ws => areIdentical vs ws
  | standing s, standing t => decide (s = t)
  | function, function => true
  | method v s, method w t => isIdentical v w && decide (s = t)
  | stream s vs e, stream t ws f => decide (s = t) && (areIdentical vs ws && decide (e = f))
  | constant s s', constant t t' => decide (s = t ∧ s' = t')
  | other, other => true
  | _, _ => false

/-- Whether two lists of values are one and the same. -/
def areIdentical : List Value → List Value → Bool
  | [], [] => true
  | v :: vs, w :: ws => isIdentical v w && areIdentical vs ws
  | _, _ => false

/-- Whether two lists of entries are one and the same. -/
def areIdenticalEntries : List (Value × Value) → List (Value × Value) → Bool
  | [], [] => true
  | (k, v) :: es, (l, w) :: fs =>
    isIdentical k l && (isIdentical v w && areIdenticalEntries es fs)
  | _, _ => false

end

mutual

/-- Values are identical when they are equal. -/
theorem isIdentical_iff (v w : Value) : isIdentical v w = true ↔ v = w := by
  cases v with
  | list vs => cases w <;> simp [isIdentical, areIdentical_iff vs]
  | tuple vs => cases w <;> simp [isIdentical, areIdentical_iff vs]
  | set vs => cases w <;> simp [isIdentical, areIdentical_iff vs]
  | mapping es => cases w <;> simp [isIdentical, areIdenticalEntries_iff es]
  | view s vs => cases w <;> simp [isIdentical, areIdentical_iff vs]
  | slice a b c =>
    cases w <;> simp [isIdentical, isIdentical_iff a, isIdentical_iff b, isIdentical_iff c]
  | filledType s vs => cases w <;> simp [isIdentical, areIdentical_iff vs]
  | union vs => cases w <;> simp [isIdentical, areIdentical_iff vs]
  | method v s => cases w <;> simp [isIdentical, isIdentical_iff v]
  | stream s vs e => cases w <;> simp [isIdentical, areIdentical_iff vs]
  | _ => cases w <;> simp [isIdentical]

/-- Lists of values are identical when they are equal. -/
theorem areIdentical_iff (vs ws : List Value) : areIdentical vs ws = true ↔ vs = ws := by
  match vs with
  | [] => cases ws <;> simp [areIdentical]
  | v :: rest => cases ws <;> simp [areIdentical, isIdentical_iff v, areIdentical_iff rest]

/-- Lists of entries are identical when they are equal. -/
theorem areIdenticalEntries_iff (es fs : List (Value × Value)) :
    areIdenticalEntries es fs = true ↔ es = fs := by
  match es with
  | [] => cases fs <;> simp [areIdenticalEntries]
  | (k, v) :: rest =>
    cases fs with
    | nil => simp [areIdenticalEntries]
    | cons f fs =>
      obtain ⟨l, w⟩ := f
      simp [areIdenticalEntries, isIdentical_iff k, isIdentical_iff v,
        areIdenticalEntries_iff rest, and_assoc]

end

/-- Equality of values is decided by comparing them part by part. -/
instance : DecidableEq Value := fun v w => decidable_of_iff _ (isIdentical_iff v w)

end EventPipeline.Script.Value
