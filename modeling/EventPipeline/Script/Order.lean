import EventPipeline.Script.Fault
import EventPipeline.Script.Operator
import EventPipeline.Script.Value

/-!
# Comparisons of scripts

Numbers stand in their order, texts and bytes in that of their characters, lists and tuples in that
of the first items that differ, and of two sets the smaller one comes first if the other one holds
it. Other values stand in no order. Where nothing is known of a value, a comparison has no answer.
-/

namespace EventPipeline.Script

namespace Order

/-- Whether two numbers stand in an order; what is not a number stands in none. -/
def ofPlaces (o : Order) (a b : Binary64.Place) : Bool :=
  match o with
  | less => a.lt b
  | lessOrEqual => !b.lt a
  | greater => b.lt a
  | greaterOrEqual => !a.lt b

/-- Whether two texts stand in an order. -/
def ofTexts (o : Order) (s t : Text) : Bool :=
  match o with
  | less => s.before t
  | lessOrEqual => !t.before s
  | greater => t.before s
  | greaterOrEqual => !s.before t

/-- Whether two sets stand in an order, one holding the other. -/
def ofSets (o : Order) (vs ws : List Value) : Bool :=
  match o with
  | less => Value.areWithin vs ws && vs.length < ws.length
  | lessOrEqual => Value.areWithin vs ws
  | greater => Value.areWithin ws vs && ws.length < vs.length
  | greaterOrEqual => Value.areWithin ws vs

/-- Whether nothing and nothing, or the beginning of something and all of it, stand in an order. -/
def ofRests (o : Order) (firstGoesOn secondGoesOn : Bool) : Bool :=
  match o with
  | less => secondGoesOn
  | lessOrEqual => !firstGoesOn
  | greater => firstGoesOn
  | greaterOrEqual => !secondGoesOn

mutual

/-- Whether two values stand in an order, if that is known. -/
def holds (o : Order) : Value → Value → Except RunError (Option Bool)
  | .text s, .text t => .ok (some (o.ofTexts s t))
  | .bytes s, .bytes t => .ok (some (o.ofTexts s t))
  | .list vs, .list ws => holdsOfItems o vs ws
  | .tuple vs, .tuple ws => holdsOfItems o vs ws
  | v, w =>
    match v.place?, w.place?, v.asSet?, w.asSet? with
    | some a, some b, _, _ => .ok (some (o.ofPlaces a b))
    | _, _, some vs, some ws => .ok (some (o.ofSets vs ws))
    | _, _, _, _ =>
      if v.isUnknown || w.isUnknown then .ok none
      else if v.isReal && w.isReal then .ok (some false)
      else .error .mismatch

/-- Whether two lists of values stand in an order: the first items that differ decide. -/
def holdsOfItems (o : Order) : List Value → List Value → Except RunError (Option Bool)
  | v :: vs, w :: ws => if v.same w then holdsOfItems o vs ws else holds o v w
  | vs, ws => .ok (some (o.ofRests (!vs.isEmpty) (!ws.isEmpty)))

end

end Order

namespace Comparison

/-- Whether a text occurs in another one. -/
def occursIn (part : Text) : Text → Bool
  | [] => part.isEmpty
  | c :: rest => Text.startsWith (c :: rest) part || occursIn part rest

/-- The greatest number of a byte. -/
def byteLimit : Int := 255

/-- Whether a value can be looked for in a set: another set can. -/
def canBeSought : Value → Bool
  | .set _ => true
  | v => v.isKey

/-- The whole number that a number is equal to. -/
def wholeOf? : Value → Option Int
  | .float x => x.toInt?
  | .complex z => if z.im.isZero then z.re.toInt? else none
  | v => v.whole?

/-- Whether a value is one of the numbers of a range. -/
def isInRange (v : Value) (first last step : Int) : Bool :=
  (wholeOf? v).any fun n =>
    (n - first) % step = 0 && (if 0 < step then first ≤ n && n < last else last < n && n ≤ first)

/-- Whether a value is in another one, if that is known. -/
def isIn (v w : Value) : Except RunError (Option Bool) :=
  match v, w with
  | .text s, .text t => .ok (some (occursIn s t))
  | .bytes s, .bytes t => .ok (some (occursIn s t))
  | v, .bytes t =>
    match v.whole? with
    | some n =>
      if n < 0 || byteLimit < n then .error (.value .noByte)
      else .ok (some (t.contains (Char.ofNat n.toNat)))
    | none => if v.isUnknown then .ok none else .error .mismatch
  | v, .text _ => if v.isUnknown then .ok none else .error .mismatch
  | v, .set items =>
    if canBeSought v then .ok (some (v.isAmong items)) else .error .mismatch
  | v, .mapping entries =>
    if v.isKey then .ok (some (Value.valueAt? entries v).isSome) else .error .mismatch
  | _, .other => .ok none
  | v, .range first last step => .ok (some (isInRange v first last step))
  | v, .stream _ items (some e) => if v.isAmong items then .ok (some true) else .error e
  | v, w =>
    match w.items? with
    | some items => .ok (some (v.isAmong items))
    | none => .error .mismatch

/-- Whether two values are one and the same. What can grow is only itself, and no two values of a
script that are equal are told apart otherwise. -/
def areIdentical (v w : Value) : Bool :=
  v.isKey && v.kindWord == w.kindWord && v.same w

/-- The truth value of an answer, if there is one. -/
def answer : Option Bool → Value
  | some b => .bool b
  | none => .other

/-- What a comparison comes to. -/
def apply (c : Comparison) (v w : Value) : Except RunError Value :=
  match c with
  | equal => .ok (if v.isUnknown || w.isUnknown then .other else .bool (v.same w))
  | notEqual => .ok (if v.isUnknown || w.isUnknown then .other else .bool !v.same w)
  | ordered o => (o.holds v w).map answer
  | among => (isIn v w).map answer
  | notAmong => (isIn v w).map fun b => answer (b.map (!·))
  | identical => .ok (.bool (areIdentical v w))
  | notIdentical => .ok (.bool !areIdentical v w)

end Comparison

end EventPipeline.Script
