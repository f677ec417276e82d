import EventPipeline.Script.Call
import EventPipeline.Script.Reader.Statement
import EventPipeline.Script.Standing

/-!
# Running scripts

A script runs one statement after the other, each of which may give values to names. What modules
hold is not followed: it is some value of which nothing more is known. The body of a function never
runs.

The names of a loop within an expression belong to the loop; all other names belong to the script. A
name that the script gave no value may still stand for something that every script has.
-/

namespace EventPipeline.Script

/-- What names were given. -/
abbrev Bindings := Dictionary Text Value

/-- Where the running of a script stands. -/
structure Scope where
  /-- What the names of the script were given. -/
  bound : Bindings := []
  /-- What the names of the loops around were given, if they were, those of the innermost loop
  first. -/
  loops : List (Dictionary Text (Option Value)) := []

namespace Scope

/-- What a name stands for. -/
def lookUp (scope : Scope) (name : Text) : Except RunError Value :=
  match scope.loops.findSome? fun loop => loop.get? name with
  | some (some v) => .ok v
  | some none =>
    .error (if scope.loops.head?.any (·.contains name) then .unboundInLoop else .unbound)
  | none =>
    match scope.bound.get? name with
    | some v => .ok v
    | none =>
      match standing? name with
      | some v => .ok v
      | none => .error .unbound

/-- The names of loops after one of them was given a value, if it is one of theirs. -/
def putInLoops (name : Text) (v : Value) : List (Dictionary Text (Option Value)) →
    Option (List (Dictionary Text (Option Value)))
  | [] => none
  | loop :: outer =>
    if loop.contains name then some (loop.put name (some v) :: outer)
    else (putInLoops name v outer).map (loop :: ·)

/-- The scope after a name of the script was given a value. -/
def putOwn (scope : Scope) (name : Text) (v : Value) : Scope :=
  { scope with bound := scope.bound.put name v }

/-- The scope after a name was given a value. -/
def put (scope : Scope) (name : Text) (v : Value) : Scope :=
  match putInLoops name v scope.loops with
  | some loops => { scope with loops }
  | none => scope.putOwn name v

/-- The scope within a loop with names of its own. -/
def enter (scope : Scope) (names : List Text) : Scope :=
  { scope with loops := names.map (fun name => (name, none)) :: scope.loops }

/-- The scope behind a loop. -/
def leave (scope : Scope) : Scope :=
  { scope with loops := scope.loops.tail }

end Scope

/-- What gives a value and may change what names stand for. -/
abbrev Running (α : Type) := StateT Scope (Except RunError) α

/-! ## Collections and texts -/

/-- Some value, or one of which nothing is known. -/
def known (v : Option Value) : Value :=
  v.getD .other

/-- A set of values. -/
def setOf (items : List Value) : Except RunError Value :=
  if items.all Value.isKey then .ok (.set (Value.distinct items)) else .error .mismatch

/-- The entries of an object with those of another value behind them, if they are known. -/
def withEntriesOf (found : List (Value × Value)) :
    Value → Except RunError (Option (List (Value × Value)))
  | .mapping entries => .ok (some (Value.mergedEntries found entries))
  | .other => .ok none
  | _ => .error .mismatch

/-- The entries of an object with those for keys behind them. -/
def withEntries (found entries : List (Value × Value)) : Except RunError (List (Value × Value)) :=
  if entries.all fun e => e.1.isKey then .ok (Value.mergedEntries found entries)
  else .error .mismatch

/-- The kind of the streams that loops give. -/
def streamKind : Text := "generator".toList

/-- The value that the parts of each round of a loop make up. -/
def gatheredOf (kind : Gathering) (rounds : List (List Value)) : Except RunError Value :=
  match kind with
  | .list => .ok (.list rounds.flatten)
  | .set => setOf rounds.flatten
  | .mapping => (withEntries [] (rounds.filterMap fun
      | [key, v] => some (key, v)
      | _ => none)).map .mapping
  | .stream => .ok (.stream streamKind rounds.flatten none)

/-- Checks the parts of a round of a loop. -/
def checkRound (kind : Gathering) (parts : List Value) : Except RunError Unit :=
  match kind with
  | .list => .ok ()
  | .stream => .ok ()
  | _ => if parts.head?.all Value.isKey then .ok () else .error .mismatch

/-- The items of a value that is given to several targets. -/
def itemsFor (targets : List Expression) (v : Value) : Except RunError (List Value) := do
  if v.isUnknown then return targets.map fun _ => .other
  let items ← v.spreadOf
  let count := targets.length
  if targets.any Expression.isSpread then
    if items.length + 1 < count then
      throw (.value (.fewItems true (count - 1) items.length))
    let front := (targets.takeWhile fun t => !t.isSpread).length
    let middle := items.length + 1 - count
    return items.take front ++ .list ((items.drop front).take middle) :: items.drop (front + middle)
  else if items.length < count then throw (.value (.fewItems false count items.length))
  else if count < items.length then throw (.value (.manyItems count))
  else return items

/-! ## Expressions -/

mutual

/-- What an expression stands for. -/
def evaluate : Expression → Running Value
  | .literal v => return v
  | .name name => do (← get).lookUp name
  | .list items => do return known ((← evaluateItems items).map .list)
  | .tuple items => do return known ((← evaluateItems items).map .tuple)
  | .set items => do
    match ← evaluateMembers [] false items with
    | some items => setOf items
    | none => return .other
  | .mapping entries => do return known ((← evaluateEntries [] [] entries).map .mapping)
  | .spread items => evaluate items
  | .signed op operand => do op.apply (← evaluate operand)
  | .binary op left right => do
    let v ← evaluate left
    op.apply v (← evaluate right)
  | .compared first further => do evaluateComparisons (← evaluate first) further
  | .both left right => do
    let v ← evaluate left
    if v.truth then evaluate right else return v
  | .either left right => do
    let v ← evaluate left
    if v.truth then return v else evaluate right
  | .choice condition yes no => do
    if (← evaluate condition).truth then evaluate yes else evaluate no
  | .function _ standing _ => do
    let _ ← evaluateItems standing
    return .function
  | .feature owner name => do featureOf (← evaluate owner) name
  | .item owner index => do
    let v ← evaluate owner
    v.itemOf (← evaluate index)
  | .slice first last step => do
    let first ← evaluate first
    let last ← evaluate last
    return .slice first last (← evaluate step)
  | .call callee values options => do
    let f ← evaluate callee
    let given ← evaluateItems values
    let named ← evaluateOptions [] options
    match given, named with
    | some given, some named =>
      let outcome ← f.call ⟨given, named⟩
      match outcome.changed, f, callee, values with
      | some changed, .method (.type _) _, _, first :: _ => keep first changed
      | some changed, .method _ _, .feature owner _, _ => keep owner changed
      | some changed, .standing _, _, first :: _ => keep first changed
      | _, _, _, _ => pure ()
      return outcome.result
    | _, _ =>
      let _ ← f.call ⟨[], []⟩
      return .other
  | .named name value => do
    let v ← evaluate value
    modify fun scope => scope.putOwn name v
    return v
  | .gathered kind parts loops => do
    let v ← evaluateSource loops
    if !v.hasItems then throw .mismatch
    let scope ← get
    let names := Expression.namesOf (loops.map Prod.fst)
    match gather kind (evaluateItems parts) loops (some v) (scope.enter names) with
    | .ok (found, scope) =>
      set scope.leave
      match found with
      | some rounds => gatheredOf kind rounds
      | none => return .other
    | .error e => if kind = .stream then return .stream streamKind [] (some e) else throw e
  | .joined parts => do
    match ← evaluateItems parts with
    | some parts => return known ((parts.mapM Value.text?).map fun texts => .text texts.flatten)
    | none => return .other
  | .field value conversion pattern => do
    let v ← evaluate value
    match ← evaluate pattern with
    | .text pattern => return known ((← v.fieldBy conversion pattern).map .text)
    | _ => return .other

/-- What expressions stand for, if that is known; some of them stand for several values. -/
def evaluateItems : List Expression → Running (Option (List Value))
  | [] => return some []
  | .spread items :: rest => do
    let v ← evaluate items
    let front ← v.spreadOf
    let further ← evaluateItems rest
    return if v.isUnknown then none else further.map (front ++ ·)
  | e :: rest => do
    let v ← evaluate e
    return (← evaluateItems rest).map (v :: ·)

/-- What the expressions for the members of a set stand for, behind those that were `found`, if that
is known. The set is `begun` with the first of them that stands for several values, and from then on
no value comes in that cannot be a key. -/
def evaluateMembers (found : List Value) (begun : Bool) :
    List Expression → Running (Option (List Value))
  | [] => return some found
  | .spread items :: rest => do
    let _ ← setOf found
    let v ← evaluate items
    let further ← v.membersOf
    if v.isUnknown then
      let _ ← evaluateMembers [] true rest
      return none
    else evaluateMembers (found ++ further) true rest
  | e :: rest => do
    let v ← evaluate e
    if begun && !v.isKey then throw .mismatch
    evaluateMembers (found ++ [v]) begun rest

/-- What the entries of an object stand for, behind those that were `found` and those that are still
to be put among them, if that is known. -/
def evaluateEntries (found entries : List (Value × Value)) :
    List (Option Expression × Expression) → Running (Option (List (Value × Value)))
  | [] => some <$> withEntries found entries
  | (some key, e) :: rest => do
    let key ← evaluate key
    let v ← evaluate e
    evaluateEntries found (entries ++ [(key, v)]) rest
  | (none, e) :: rest => do
    let found ← withEntries found entries
    match ← withEntriesOf found (← evaluate e) with
    | some found => evaluateEntries found [] rest
    | none =>
      let _ ← evaluateEntries [] [] rest
      return none

/-- What a chain of comparisons stands for: the first that counts as no, or the last one. -/
def evaluateComparisons (v : Value) : List (Comparison × Expression) → Running Value
  | [] => return v
  | (c, e) :: rest => do
    let w ← evaluate e
    let answer ← c.apply v w
    if rest.isEmpty || !answer.truth then return answer else evaluateComparisons w rest

/-- What a function is given by name, behind what was `found`, if that is known. -/
def evaluateOptions (found : Dictionary Text Value) :
    List (Option Text × Expression) → Running (Option (Dictionary Text Value))
  | [] => return some found
  | (some name, e) :: rest => do
    let v ← evaluate e
    if found.contains name then throw .mismatch
    evaluateOptions (found ++ [(name, v)]) rest
  | (none, e) :: rest => do
    match ← evaluate e with
    | .mapping entries =>
      match entries.mapM fun e => e.1.text?.map fun name => (name, e.2) with
      | some further =>
        if further.any fun e => found.contains e.1 then throw .mismatch
        evaluateOptions (found ++ further) rest
      | none => throw .mismatch
    | .other =>
      let _ ← evaluateOptions [] rest
      return none
    | _ => throw .mismatch

/-- Whether all of some conditions count as yes. -/
def evaluateConditions : List Expression → Running Bool
  | [] => return true
  | e :: rest => do
    if (← evaluate e).truth then evaluateConditions rest else return false

/-- What the source of the outermost of some loops stands for. -/
def evaluateSource : List (Expression × Expression × List Expression) → Running Value
  | [] => return .other
  | (_, source, _) :: _ => evaluate source

/-- The parts of each round of loops, if they are known; the source of the outermost loop stands for
a value already. -/
def gather (kind : Gathering) (parts : Running (Option (List Value))) :
    List (Expression × Expression × List Expression) → (outermost : Option Value) →
      Running (Option (List (List Value)))
  | [], _ => do
    match ← parts with
    | some found =>
      checkRound kind found
      return some [found]
    | none => return none
  | (target, source, conditions) :: rest, outermost => do
    let v ← match outermost with
      | some v => pure v
      | none => evaluate source
    if v.isUnknown then return none
    let values ← v.spreadOf
    let rounds ← values.mapM fun v => do
      give target v
      if ← evaluateConditions conditions then gather kind parts rest none else return some []
    return (rounds.mapM id).map List.flatten

/-- Gives a target a value. -/
def give : Expression → Value → Running Unit
  | .list targets, v => do giveAll targets (← itemsFor targets v)
  | .tuple targets, v => do giveAll targets (← itemsFor targets v)
  | .spread target, v => give target v
  | .name name, v => modify fun scope => scope.put name v
  | .feature owner name, _ => do checkFeature (← evaluate owner) name
  | .item owner index, v => do
    let holder ← evaluate owner
    keep owner (← holder.withItem (← evaluate index) v)
  | _, _ => return

/-- Keeps what became of the value of an expression: a name stands for it from then on, and the
value of which it is an item holds it. -/
def keep : Expression → Value → Running Unit
  | .name name, v => modify fun scope => scope.put name v
  | .item owner index, v => do
    let holder ← evaluate owner
    keep owner (holder.holding (← evaluate index) v)
  | _, _ => return

/-- Gives targets one value each. -/
def giveAll : List Expression → List Value → Running Unit
  | [], _ => return
  | _, [] => return
  | target :: rest, v :: values => do
    give target v
    giveAll rest values

end

/-! ## Taking names away -/

/-- Takes a name of the script away. -/
def takeNameAway (name : Text) : Running Unit := do
  let scope ← get
  if scope.bound.contains name then set { scope with bound := scope.bound.erase name }
  else throw .unbound

mutual

/-- Takes a target away. -/
def takeAway : Expression → Running Unit
  | .name name => takeNameAway name
  | .list targets => takeAllAway targets
  | .tuple targets => takeAllAway targets
  | .feature owner name => do checkFeature (← evaluate owner) name
  | .item owner index => do
    let holder ← evaluate owner
    keep owner (← holder.withoutItem (← evaluate index))
  | _ => return

/-- Takes targets away. -/
def takeAllAway : List Expression → Running Unit
  | [] => return
  | target :: rest => do
    takeAway target
    takeAllAway rest

end

/-! ## Statements -/

/-- The first part of a full name. -/
def firstPart (name : Text) : Text :=
  name.takeWhile (· ≠ '.')

/-- Checks that there is a module. -/
def checkModule (name : Text) : Except RunError Unit :=
  (Component.checkModule name).mapError .noModule

/-- Takes a module in. -/
def takeIn (taken : Text × Option Text) : Running Unit := do
  checkModule taken.1
  modify fun scope => scope.put (taken.2.getD (firstPart taken.1)) .other

/-- Runs a statement. -/
def Statement.run : Statement → Running Unit
  | expression e => do let _ ← evaluate e
  | assign targets e => do
    let v ← evaluate e
    targets.forM fun target => give target v
  | annotate target remark e => do
    match e with
    | some e => give target (← evaluate e)
    | none => let _ ← evaluateItems target.parts
    let _ ← evaluate remark
  | update target op e => do
    let v ← evaluate target
    give target (← op.update v (← evaluate e))
  | delete targets => takeAllAway targets
  | modules named => named.forM takeIn
  | components moduleName names => do
    checkModule moduleName
    names.forM fun n => modify fun scope => scope.put (n.2.getD n.1) .other
  | function name options _ => do
    let _ ← evaluateItems (options.filterMap FunctionOption.standing?)
    modify fun scope => scope.put name .function
  | giveBack _ => return
  | pass => return

/-- The scope after statements that start in another one. -/
def runFrom (scope : Scope) (statements : List Statement) : Except RunError Scope :=
  statements.foldlM (fun scope s => (s.run scope).map Prod.snd) scope

/-- What names were given after statements. -/
def run (statements : List Statement) : Except RunError Bindings :=
  (runFrom {} statements).map Scope.bound

end EventPipeline.Script
