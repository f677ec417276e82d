import EventPipeline.Json.Shown
import EventPipeline.Script.Complex
import EventPipeline.Script.Fault

/-!
# Values of scripts

A script gives names values. Beside the interchange values there are tuples, sets, bytes, complex
numbers, ranges, slices, types and functions, and objects may have keys of other
kinds than text.
What comes of a step that is not followed further is some value of which nothing is known.

`same` is equality as scripts see it, where numbers are equal when they are the same number, of
whatever kind they are, and the order of sets and objects does not matter; `toJson` is the
interchange value that stands for a value.
-/

namespace EventPipeline.Script

/-- A value of a script. -/
inductive Value
  /-- Nothing. -/
  | null
  /-- A truth value. -/
  | bool (b : Bool)
  /-- A whole number. -/
  | int (n : Int)
  /-- A double-precision number. -/
  | float (x : Binary64)
  /-- A complex number. -/
  | complex (z : Complex)
  /-- A text. -/
  | text (s : Text)
  /-- Bytes, as the characters of their numbers. -/
  | bytes (s : Text)
  /-- A list. -/
  | list (items : List Value)
  /-- A tuple. -/
  | tuple (items : List Value)
  /-- A set. -/
  | set (items : List Value)
  /-- Values by key. -/
  | mapping (entries : List (Value × Value))
  /-- What an object shows of itself: its keys, its values or its entries. -/
  | view (kind : Text) (items : List Value)
  /-- Whole numbers with the same step from each to the next: the first one, the one in front of
  which they end, and the step. -/
  | range (first last step : Int)
  /-- A slice: where it begins, where it ends, and the steps between. -/
  | slice (first last step : Value)
  /-- A type that every script has, by its name. -/
  | type (name : Text)
  /-- A type, by its name, together with what its values hold. -/
  | filledType (name : Text) (held : List Value)
  /-- One of several types. -/
  | union (choices : List Value)
  /-- A function that every script has. -/
  | standing (name : Text)
  /-- A function of the script. -/
  | function
  /-- A function that belongs to a value, by its name. -/
  | method (owner : Value) (name : Text)
  /-- Values one after the other, which may end with a failure. -/
  | stream (kind : Text) (items : List Value) (ending : Option RunError)
  /-- A value of a kind of its own, which takes part in no operation. -/
  | constant (kind word : Text)
  /-- Some value of which nothing is known. -/
  | other
  deriving Repr

namespace Value

/-- The value that stands for something left out. -/
def ellipsis : Value :=
  constant "ellipsis".toList "Ellipsis".toList

/-! ## Ranges -/

/-- The number of steps from a number until another one is reached or passed. -/
def stepCount (first last step : Int) : Nat :=
  if 0 < step then ((last - first + step - 1) / step).toNat
  else ((first - last - step - 1) / (-step)).toNat

/-- The numbers of a range. -/
def numbersOf (first last step : Int) : List Value :=
  (List.range (stepCount first last step)).map fun (i : Nat) => int (first + i * step)

/-- Whether two ranges have the same numbers. -/
def sameRange (first last step first' last' step' : Int) : Bool :=
  let count := stepCount first last step
  count = stepCount first' last' step' &&
    (count = 0 || (first = first' && (count = 1 || step = step')))

/-- The greatest number of items of a collection that is kept. -/
def lengthLimit : Nat := 50000000

/-! ## Numbers and truth -/

/-- The whole number that a value is; a truth value is one or zero. -/
def whole? : Value → Option Int
  | bool b => some b.toNat
  | int n => some n
  | _ => none

/-- Whether a value is a real number. -/
def isReal : Value → Bool
  | bool _ => true
  | int _ => true
  | float _ => true
  | _ => false

/-- The place of a number on the line of numbers. -/
def place? : Value → Option Binary64.Place
  | float x => x.place?
  | v => v.whole?.map Binary64.Place.ofInt

/-- Whether nothing is known of a value. -/
def isUnknown : Value → Bool
  | other => true
  | _ => false

/-- Whether a value counts as yes where one is asked. -/
def truth : Value → Bool
  | null => false
  | bool b => b
  | int n => n ≠ 0
  | float x => !x.isZero
  | complex z => !z.isZero
  | text s => !s.isEmpty
  | bytes s => !s.isEmpty
  | list items => !items.isEmpty
  | tuple items => !items.isEmpty
  | set items => !items.isEmpty
  | mapping entries => !entries.isEmpty
  | view _ items => !items.isEmpty
  | range first last step => 0 < stepCount first last step
  | _ => true

/-- Whether a value can be called. -/
def isCallable : Value → Bool
  | type _ => true
  | filledType _ _ => true
  | standing _ => true
  | function => true
  | method _ _ => true
  | _ => false

/-! ## Equality -/

/-- Whether two values are the same number. -/
def sameNumber (v w : Value) : Bool :=
  match v.place?, w.place? with
  | some a, some b => !a.lt b && !b.lt a
  | _, _ => false

/-- Whether a value is a complex number. -/
def sameComplex (z : Complex) (w : Value) : Bool :=
  match w with
  | complex z' => sameNumber (float z.re) (float z'.re) && sameNumber (float z.im) (float z'.im)
  | w => z.im.isZero && sameNumber (float z.re) w

/-- The kind of what an object shows of its values. -/
def valuesKind : Text := "dict_values".toList

mutual

/-- Whether two values are equal. -/
def same : Value → Value → Bool
  | null, null => true
  | text s, text t => s == t
  | bytes s, bytes t => s == t
  | list vs, list ws => sameItems vs ws
  | tuple vs, tuple ws => sameItems vs ws
  | set vs, set ws => vs.length = ws.length && areWithin vs ws
  | mapping es, mapping fs => es.length = fs.length && areEntriesOf es fs
  | view kind vs, view kind' ws =>
    (kind != valuesKind && kind' != valuesKind) && (vs.length = ws.length && areWithin vs ws)
  | view kind vs, set ws => kind != valuesKind && (vs.length = ws.length && areWithin vs ws)
  | set vs, view kind ws => kind != valuesKind && (vs.length = ws.length && areWithin vs ws)
  | range a b c, range a' b' c' => sameRange a b c a' b' c'
  | slice a b c, slice a' b' c' => same a a' && (same b b' && same c c')
  | type s, type t => s == t
  | filledType s vs, filledType t ws => s == t && sameItems vs ws
  | union vs, union ws => vs.length = ws.length && areWithin vs ws
  | standing s, standing t => s == t
  | method v s, method w t => s == t && same v w
  | constant s _, constant t _ => s == t
  | complex z, w => sameComplex z w
  | v, complex z => sameComplex z v
  | v, w => sameNumber v w

/-- Whether two lists of values are equal. -/
def sameItems : List Value → List Value → Bool
  | [], [] => true
  | v :: vs, w :: ws => same v w && sameItems vs ws
  | _, _ => false

/-- Whether all of some values are among others. -/
def areWithin : List Value → List Value → Bool
  | [], _ => true
  | v :: vs, ws => (ws.any fun w => same v w) && areWithin vs ws

/-- Whether all of some entries are among others. -/
def areEntriesOf : List (Value × Value) → List (Value × Value) → Bool
  | [], _ => true
  | (k, v) :: es, fs => (fs.any fun f => same k f.1 && same v f.2) && areEntriesOf es fs

end

/-- Whether one of some values is equal to a value. -/
def isAmong (v : Value) (items : List Value) : Bool :=
  items.any v.same

/-- The text that a value is. -/
def text? : Value → Option Text
  | text s => some s
  | _ => none

/-- The items of a value that is a set, or that is compared with others like one. -/
def asSet? : Value → Option (List Value)
  | set items => some items
  | view kind items => if kind = valuesKind then none else some items
  | _ => none

/-! ## Keys -/

mutual

/-- Whether a value can be a key: what can grow cannot, and neither can a tuple that holds it. -/
def isKey : Value → Bool
  | list _ => false
  | set _ => false
  | mapping _ => false
  | view kind _ => kind == valuesKind
  | slice _ _ _ => false
  | tuple items => areKeys items
  | _ => true

/-- Whether values can be keys. -/
def areKeys : List Value → Bool
  | [] => true
  | v :: rest => isKey v && areKeys rest

end

/-- The value of a key. -/
def valueAt? (entries : List (Value × Value)) (key : Value) : Option Value :=
  (entries.find? fun e => key.same e.1).map Prod.snd

/-- The entries with a key bound to a value: a key that is there keeps its place. -/
def putEntry : List (Value × Value) → Value → Value → List (Value × Value)
  | [], key, v => [(key, v)]
  | (k, w) :: rest, key, v =>
    if key.same k then (k, v) :: rest else (k, w) :: putEntry rest key v

/-- The values without those that are equal to an earlier one. -/
def distinct (items : List Value) : List Value :=
  items.foldl (fun found v => if v.isAmong found then found else found ++ [v]) []

/-! ## Items -/

/-- The items that a value consists of, if it does and there are not too many; those of something
unknown are not known, and a stream that ends with a failure has none. -/
def items? : Value → Option (List Value)
  | text s => some (s.map fun c => text [c])
  | bytes s => some (s.map fun c => int c.toNat)
  | list items => some items
  | tuple items => some items
  | set items => some items
  | mapping entries => some (entries.map Prod.fst)
  | view _ items => some items
  | range first last step =>
    if stepCount first last step ≤ lengthLimit then some (numbersOf first last step) else none
  | stream _ items none => some items
  | _ => none

/-- Whether a value gives items one after the other, or may do so. -/
def hasItems : Value → Bool
  | stream _ _ _ => true
  | range _ _ _ => true
  | other => true
  | v => v.items?.isSome

/-! ## Kinds -/

/-- The word for the kind of a value, as messages use it. -/
def kindWord : Value → Text
  | null => "NoneType".toList
  | bool _ => "bool".toList
  | int _ => "int".toList
  | float _ => "float".toList
  | complex _ => "complex".toList
  | text _ => "str".toList
  | bytes _ => "bytes".toList
  | list _ => "list".toList
  | tuple _ => "tuple".toList
  | set _ => "set".toList
  | mapping _ => "dict".toList
  | view kind _ => kind
  | range _ _ _ => "range".toList
  | slice _ _ _ => "slice".toList
  | type _ => "type".toList
  | filledType _ _ => "types.GenericAlias".toList
  | union _ => "types.UnionType".toList
  | standing _ => "builtin_function_or_method".toList
  | function => "function".toList
  | method (type _) _ => "method_descriptor".toList
  | method _ _ => "builtin_function_or_method".toList
  | stream kind _ _ => kind
  | constant kind _ => kind
  | other => "object".toList

/-! ## Interchange values -/

mutual

/-- The interchange value that stands for a value. -/
def toJson : Value → Json
  | null => .null
  | bool b => .bool b
  | int n => .int n
  | float x => .float x
  | text s => .text s
  | bytes s => .text s
  | list items => .list (itemsToJson items)
  | tuple items => .list (itemsToJson items)
  | set items => .list (itemsToJson items)
  | mapping entries => .object (entriesToJson entries)
  | _ => .object []

/-- The interchange values that stand for the items of a list. -/
def itemsToJson : List Value → List Json
  | [] => []
  | v :: rest => toJson v :: itemsToJson rest

/-- The members that stand for the entries of an object; keys count as they are shown. -/
def entriesToJson : List (Value × Value) → List (Text × Json)
  | [] => []
  | (key, v) :: rest => ((toJson key).plain, toJson v) :: entriesToJson rest

end

mutual

/-- The value that an interchange value is. -/
def ofJson : Json → Value
  | .null => null
  | .bool b => bool b
  | .int n => int n
  | .float x => float x
  | .text s => text s
  | .list items => list (itemsOfJson items)
  | .object members => mapping (entriesOfJson members)

/-- The values that the items of a list are. -/
def itemsOfJson : List Json → List Value
  | [] => []
  | v :: rest => ofJson v :: itemsOfJson rest

/-- The entries that members are. -/
def entriesOfJson : List (Text × Json) → List (Value × Value)
  | [] => []
  | (key, v) :: rest => (text key, ofJson v) :: entriesOfJson rest

end

/-! ## Laws -/

mutual

/-- An interchange value stands for itself. -/
@[simp] theorem toJson_ofJson (v : Json) : (ofJson v).toJson = v := by
  cases v with
  | list items => simp [ofJson, toJson, itemsToJson_itemsOfJson items]
  | object members => simp [ofJson, toJson, entriesToJson_entriesOfJson members]
  | _ => simp [ofJson, toJson]

/-- The items of a list stand for themselves. -/
theorem itemsToJson_itemsOfJson (items : List Json) :
    itemsToJson (itemsOfJson items) = items := by
  match items with
  | [] => rfl
  | v :: rest => simp [itemsOfJson, itemsToJson, toJson_ofJson v, itemsToJson_itemsOfJson rest]

/-- The members of an object stand for themselves. -/
theorem entriesToJson_entriesOfJson (members : List (Text × Json)) :
    entriesToJson (entriesOfJson members) = members := by
  match members with
  | [] => rfl
  | (key, v) :: rest =>
    simp [entriesOfJson, entriesToJson, toJson_ofJson v, entriesToJson_entriesOfJson rest, toJson,
      Json.plain]

end

end Value

end EventPipeline.Script
