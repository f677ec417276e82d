import EventPipeline.Binary64
import EventPipeline.Dictionary

/-!
# Interchange values

The values of the interchange format. Integers are exact and apart from double-precision numbers,
and the members of an object keep their order.
-/

namespace EventPipeline

/-- An interchange value. -/
inductive Json
  /-- The null value. -/
  | null
  /-- A truth value. -/
  | bool (b : Bool)
  /-- An integer. -/
  | int (n : Int)
  /-- A double-precision number. -/
  | float (x : Binary64)
  /-- A text. -/
  | text (s : Text)
  /-- A list of values. -/
  | list (items : List Json)
  /-- Members in order. -/
  | object (members : List (Text × Json))
  deriving Repr

namespace Json

/-- Whether a value is null. -/
def isNull : Json → Bool
  | null => true
  | _ => false

/-- The text that a value is, if it is one. -/
def text? : Json → Option Text
  | text s => some s
  | _ => none

/-- Whether a value has no parts. -/
def isAtom : Json → Bool
  | list _ => false
  | object _ => false
  | _ => true

/-- The member of an object; null when the value is no object or has no such member. -/
def member (v : Json) (key : Text) : Json :=
  match v with
  | object members => (Dictionary.get? members key).getD null
  | _ => null

/-- The word for the kind of a value, as messages use it. -/
def kindWord : Json → Text
  | null => "NoneType".toList
  | bool _ => "bool".toList
  | int _ => "int".toList
  | float _ => "float".toList
  | text _ => "str".toList
  | list _ => "list".toList
  | object _ => "dict".toList

/-! ## Equality -/

mutual

/-- Whether two values are the same. -/
def same : Json → Json → Bool
  | null, null => true
  | bool a, bool b => decide (a = b)
  | int m, int n => decide (m = n)
  | float x, float y => decide (x = y)
  | text s, text t => decide (s = t)
  | list vs, list ws => sameItems vs ws
  | object ms, object ns => sameMembers ms ns
  | _, _ => false

/-- Whether two lists of values are the same. -/
def sameItems : List Json → List Json → Bool
  | [], [] => true
  | v :: vs, w :: ws => same v w && sameItems vs ws
  | _, _ => false

/-- Whether two lists of members are the same, in the same order. -/
def sameMembers : List (Text × Json) → List (Text × Json) → Bool
  | [], [] => true
  | (s, v) :: ms, (t, w) :: ns => decide (s = t) && (same v w && sameMembers ms ns)
  | _, _ => false

end

mutual

/-- Values are the same when they are equal. -/
theorem same_iff (v w : Json) : same v w = true ↔ v = w := by
  cases v with
  | list vs => cases w <;> simp [same, sameItems_iff vs]
  | object ms => cases w <;> simp [same, sameMembers_iff ms]
  | _ => cases w <;> simp [same]

/-- Lists of values are the same when they are equal. -/
theorem sameItems_iff (vs ws : List Json) : sameItems vs ws = true ↔ vs = ws := by
  match vs with
  | [] => cases ws <;> simp [sameItems]
  | v :: rest => cases ws <;> simp [sameItems, same_iff v, sameItems_iff rest]

/-- Lists of members are the same when they are equal. -/
theorem sameMembers_iff (ms ns : List (Text × Json)) : sameMembers ms ns = true ↔ ms = ns := by
  match ms with
  | [] => cases ns <;> simp [sameMembers]
  | (s, v) :: rest =>
    cases ns with
    | nil => simp [sameMembers]
    | cons n ns =>
      obtain ⟨t, w⟩ := n
      simp [sameMembers, same_iff v, sameMembers_iff rest, and_assoc]

end

/-- Equality of values is decided by comparing them part by part. -/
instance : DecidableEq Json := fun v w => decidable_of_iff _ (same_iff v w)

/-! ## Values that stand for nothing -/

/-- The values that stand for nothing, but for the empty text. -/
inductive Blank
  /-- Null. -/
  | null
  /-- The truth value that says no. -/
  | no
  /-- The integer zero. -/
  | zero
  /-- A zero in double precision, which has a sign. -/
  | zeroFloat (negative : Bool)
  /-- A list without items. -/
  | noItems
  /-- An object without members. -/
  | noMembers
  deriving DecidableEq, Repr

/-- The value itself. -/
def Blank.toJson : Blank → Json
  | null => .null
  | no => .bool false
  | zero => .int 0
  | zeroFloat negative => .float (Binary64.ofRank negative 0)
  | noItems => .list []
  | noMembers => .object []

/-- Which of the values that stand for nothing a value is. -/
def blank? : Json → Option Blank
  | null => some .null
  | bool b => if b then none else some .no
  | int n => if n = 0 then some .zero else none
  | float x =>
    if x = Binary64.ofRank false 0 then some (.zeroFloat false)
    else if x = Binary64.ofRank true 0 then some (.zeroFloat true)
    else none
  | text _ => none
  | list items => if items.isEmpty then some .noItems else none
  | object members => if members.isEmpty then some .noMembers else none

/-- A value that stands for nothing is the one that it is. -/
theorem blank?_toJson (b : Blank) : b.toJson.blank? = some b := by
  cases b with
  | zeroFloat negative => cases negative <;> decide
  | _ => rfl

/-- Whether a value stands for nothing. -/
def isEmpty : Json → Bool
  | text s => s.isEmpty
  | v => v.blank?.isSome

/-! ## Numbers that are not finite -/

mutual

/-- The value with every number that is not finite replaced by null. -/
def finiteOnly : Json → Json
  | float x => if x.isFinite then float x else null
  | list items => list (finiteOnlyItems items)
  | object members => object (finiteOnlyMembers members)
  | v => v

/-- The items with every number that is not finite replaced by null. -/
def finiteOnlyItems : List Json → List Json
  | [] => []
  | v :: rest => finiteOnly v :: finiteOnlyItems rest

/-- The members with every number that is not finite replaced by null. -/
def finiteOnlyMembers : List (Text × Json) → List (Text × Json)
  | [] => []
  | (key, v) :: rest => (key, finiteOnly v) :: finiteOnlyMembers rest

end

/-! ## Integers that are too long to write or read -/

/-- The greatest number of digits of an integer that is written or read. -/
def digitLimit : Nat := 4300

/-- Whether an integer is short enough to be written or read. -/
def isShort (n : Int) : Bool :=
  n.natAbs < Nat.pow 10 digitLimit

mutual

/-- Whether every integer in a value is short enough to be written. -/
def isWritable : Json → Bool
  | int n => isShort n
  | list items => itemsWritable items
  | object members => membersWritable members
  | _ => true

/-- Whether every integer in a list of values is short enough to be written. -/
def itemsWritable : List Json → Bool
  | [] => true
  | v :: rest => isWritable v && itemsWritable rest

/-- Whether every integer in a list of members is short enough to be written. -/
def membersWritable : List (Text × Json) → Bool
  | [] => true
  | (_, v) :: rest => isWritable v && membersWritable rest

end

end Json

end EventPipeline
