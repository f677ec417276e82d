import EventPipeline.Proofs.Document.Validation

/-!
# What loading does not look at

Loading a document looks at the members that its parts declare, by their names. Members that a part
does not declare and the order of the members make no difference, and neither does it whether the
configuration, the nodes or the edges of the document are null or missing. `Rearranged` relates
values that differ in nothing else, at any depth; what is data is left as it is. Related objects
give the same document, or fail with the same issues in the same order (`ofJson_rearranged`), and so
does an object when everything is taken out of it that is not declared (`strip`).

A check looks a member up and never goes through the members, so all there is to show of an object
is that the look-ups of declared names agree (`Part.check_congr`).
-/

namespace EventPipeline

/-! ## Declared members -/

/-- What a value is in a document. -/
inductive Role
  /-- Data, which is taken as it is. -/
  | data
  /-- A part. -/
  | part (p : Part)
  /-- A list of parts. -/
  | parts (p : Part)

/-- The members that a part declares, each with what it is. -/
def Part.roles : Part → List (Text × Role)
  | field => [("name".toList, .data), ("required".toList, .data), ("data_type".toList, .data),
      ("default".toList, .data), ("batch_processor".toList, .data), ("batch_size".toList, .data)]
  | config => [("name".toList, .data), ("fields".toList, .parts field)]
  | event => [("id".toList, .data), ("name".toList, .data), ("code".toList, .data)]
  | position => [("x".toList, .data), ("y".toList, .data)]
  | nodeData => [("event".toList, .part event)]
  | node => [("id".toList, .data), ("type".toList, .data), ("position".toList, .part position),
      ("data".toList, .part nodeData)]
  | connection => [("id".toList, .data), ("source".toList, .data), ("target".toList, .data)]
  | document => [("config".toList, .part config), ("nodes".toList, .parts node),
      ("edges".toList, .parts connection)]

mutual

/-- A value without the members that its parts do not declare, at any depth. -/
def Role.strip : Role → Json → Json
  | .part p, .object members => .object (p.stripMembers members)
  | .parts p, .list items => .list (p.stripItems items)
  | _, v => v

/-- The declared members of a part, each of them stripped. -/
def Part.stripMembers (p : Part) : List (Text × Json) → List (Text × Json)
  | [] => []
  | (key, v) :: rest =>
    match Dictionary.get? p.roles key with
    | some role => (key, role.strip v) :: p.stripMembers rest
    | none => p.stripMembers rest

/-- The items of a list of parts, each of them stripped. -/
def Part.stripItems (p : Part) : List Json → List Json
  | [] => []
  | v :: rest => Role.strip (.part p) v :: p.stripItems rest

end

/-- Values that differ only in what loading does not look at. -/
inductive Rearranged : Role → Json → Json → Prop
  /-- Nothing is changed. -/
  | refl (role : Role) (v : Json) : Rearranged role v v
  /-- A change is taken back. -/
  | symm {role : Role} {v w : Json} (h : Rearranged role v w) : Rearranged role w v
  /-- One change comes after another. -/
  | trans {role : Role} {u v w : Json} (h : Rearranged role u v) (h' : Rearranged role v w) :
      Rearranged role u w
  /-- A member that is not declared is removed. -/
  | extra {p : Part} {before after : List (Text × Json)} {key : Text} {v : Json}
      (undeclared : Dictionary.get? p.roles key = none) :
      Rearranged (.part p) (.object (before ++ (key, v) :: after)) (.object (before ++ after))
  /-- The members, which have distinct names, are put into another order. -/
  | order {p : Part} {members members' : List (Text × Json)} (perm : members.Perm members')
      (distinct : (Dictionary.keys members).Nodup) :
      Rearranged (.part p) (.object members) (.object members')
  /-- A member of the document that is null is removed. -/
  | null {before after : List (Text × Json)} {key : Text}
      (single : key ∉ Dictionary.keys (before ++ after)) :
      Rearranged (.part .document) (.object (before ++ (key, .null) :: after))
        (.object (before ++ after))
  /-- A member that is declared is changed. -/
  | member {p : Part} {role : Role} {before after : List (Text × Json)} {key : Text} {v w : Json}
      (declared : Dictionary.get? p.roles key = some role) (h : Rearranged role v w) :
      Rearranged (.part p) (.object (before ++ (key, v) :: after))
        (.object (before ++ (key, w) :: after))
  /-- An item of a list of parts is changed. -/
  | item {p : Part} {before after : List Json} {v w : Json} (h : Rearranged (.part p) v w) :
      Rearranged (.parts p) (.list (before ++ v :: after)) (.list (before ++ w :: after))

/-! ## Look-ups -/

namespace Dictionary

section LookUp

variable {κ α : Type} [DecidableEq κ]

/-- Dictionaries that give related values for a key, if any. -/
def AgreeAt (R : α → α → Prop) (d e : Dictionary κ α) (key : κ) : Prop :=
  d.get? key = e.get? key ∨ ∃ v w, d.get? key = some v ∧ e.get? key = some w ∧ R v w

/-- Changing the value of an entry makes a difference to its key only. -/
lemma agreeAt_of_entry {R : α → α → Prop} (before after : Dictionary κ α) {name key : κ} {v w : α}
    (h : key = name → R v w) :
    AgreeAt R (before ++ (name, v) :: after) (before ++ (name, w) :: after) key := by
  by_cases hkey : key = name
  · rw [AgreeAt, get?_append, get?_append, get?_cons, get?_cons, if_pos hkey, if_pos hkey]
    cases get? before key with
    | some u => exact .inl rfl
    | none => exact .inr ⟨v, w, rfl, rfl, h hkey⟩
  · exact .inl ((get?_insert_of_ne before after hkey).trans
      (get?_insert_of_ne before after hkey).symm)

end LookUp

end Dictionary

/-! ## Checks that look members up -/

section Congruence

variable {α : Type} {R : Json → Json → Prop} {ms ns : List (Text × Json)} {name : Text}
  {check : Json → Checked α}

/-- A required member is checked alike where the look-ups agree. -/
lemma Shape.required_congr (h : Dictionary.AgreeAt R ms ns name)
    (hcheck : ∀ v w, R v w → check v = check w) :
    Shape.required ms name check = Shape.required ns name check := by
  rcases h with heq | ⟨v, w, hv, hw, hR⟩
  · rw [Shape.required, Shape.required, heq]
  · rw [Shape.required, Shape.required, hv, hw]
    exact congrArg (Checked.under _) (hcheck v w hR)

/-- An optional member is checked alike where the look-ups agree. -/
lemma Shape.optional_congr {value : α} (h : Dictionary.AgreeAt R ms ns name)
    (hcheck : ∀ v w, R v w → check v = check w) :
    Shape.optional ms name value check = Shape.optional ns name value check := by
  rcases h with heq | ⟨v, w, hv, hw, hR⟩
  · rw [Shape.optional, Shape.optional, heq]
  · rw [Shape.optional, Shape.optional, hv, hw]
    exact congrArg (Checked.under _) (hcheck v w hR)

/-- A list is checked alike when one of its items is. -/
lemma Checked.items_congr {v w : Json} (h : check v = check w) (before after : List Json)
    (index : Nat) :
    Checked.items check index (before ++ v :: after) =
      Checked.items check index (before ++ w :: after) := by
  induction before generalizing index with
  | nil => rw [List.nil_append, List.nil_append, Checked.items, Checked.items, h]
  | cons u before ih =>
    rw [List.cons_append, List.cons_append, Checked.items, Checked.items, ih]

end Congruence

namespace Document

/-- A member is given when it is there and not null. -/
lemma givenMember?_eq (members : List (Text × Json)) (name : Text) :
    givenMember? members name =
      (Dictionary.get? members name).filter fun v => !v.isNull := by
  rw [givenMember?]
  cases Dictionary.get? members name with
  | none => rfl
  | some v => cases v <;> rfl

/-- A member of the document is given alike where the look-ups agree on values that are null
alike. -/
lemma givenOr_congr {α : Type} {R : Json → Json → Prop} {ms ns : List (Text × Json)} {name : Text}
    {value : α} {check : Json → Checked α} (h : Dictionary.AgreeAt R ms ns name)
    (hnull : ∀ v w, R v w → v.isNull = w.isNull) (hcheck : ∀ v w, R v w → check v = check w) :
    givenOr ms name value check = givenOr ns name value check := by
  rcases h with heq | ⟨v, w, hv, hw, hR⟩
  · rw [givenOr, givenOr, givenMember?_eq, givenMember?_eq, heq]
  · rw [givenOr, givenOr, givenMember?_eq, givenMember?_eq, hv, hw, Option.filter_some,
      Option.filter_some, hnull v w hR]
    cases w.isNull with
    | true => rfl
    | false => exact congrArg (Checked.under _) (hcheck v w hR)

/-- The members of the document are checked alike where the same ones are given. -/
lemma ofMembers_congr {ms ns : List (Text × Json)}
    (h : ∀ name, givenMember? ms name = givenMember? ns name) : ofMembers ms = ofMembers ns := by
  simp only [ofMembers, givenOr, h]

/-- A member that is null is given no more than one that is missing. -/
lemma givenMember?_insert_null {before after : Dictionary Text Json} {key : Text}
    (single : key ∉ Dictionary.keys (before ++ after)) (name : Text) :
    givenMember? (before ++ (key, .null) :: after) name = givenMember? (before ++ after) name := by
  rw [givenMember?_eq, givenMember?_eq]
  by_cases hname : name = key
  · have hnone := Dictionary.get?_eq_none_iff.2 single
    have hbefore : before.get? key = none := by
      rw [Dictionary.get?_append] at hnone
      exact (Option.or_eq_none_iff.1 hnone).1
    rw [hname, hnone, Dictionary.get?_append, hbefore, Dictionary.get?_cons, if_pos rfl]
    rfl
  · rw [Dictionary.get?_insert_of_ne before after hname]

end Document

/-! ## Checks of parts -/

/-- What a part denotes. -/
def Part.Value : Part → Type
  | field => Field
  | config => Config
  | event => Event
  | position => Position
  | nodeData => Event
  | node => Node
  | connection => Connection
  | document => Document

/-- The check of a part. -/
def Part.check : (p : Part) → Json → Checked p.Value
  | field => Field.check
  | config => Config.check
  | event => Event.check
  | position => Position.check
  | nodeData => Node.checkData
  | node => Node.check
  | connection => Connection.check
  | document => Shape.object .document Document.ofMembers

/-- Values between which no check of their role tells a difference. -/
def Role.Agree : Role → Json → Json → Prop
  | .data, v, w => v = w
  | .part p, v, w => v.isNull = w.isNull ∧ p.check v = p.check w
  | .parts p, v, w => v.isNull = w.isNull ∧ Shape.list p.check v = Shape.list p.check w

/-- Objects are checked alike when their declared members are. -/
lemma Part.check_congr (p : Part) {ms ns : List (Text × Json)}
    (h : ∀ key role, Dictionary.get? p.roles key = some role →
      Dictionary.AgreeAt role.Agree ms ns key) :
    p.check (.object ms) = p.check (.object ns) := by
  have hdata : ∀ key, Dictionary.get? p.roles key = some .data →
      Dictionary.get? ms key = Dictionary.get? ns key := by
    intro key hkey
    rcases h key .data hkey with heq | ⟨v, w, hv, hw, rfl⟩
    · exact heq
    · exact hv.trans hw.symm
  cases p with
  | field =>
    change Field.check (.object ms) = Field.check (.object ns)
    simp only [Field.check, Shape.object, Shape.required, Shape.optional, hdata "name".toList rfl,
      hdata "required".toList rfl, hdata "data_type".toList rfl, hdata "default".toList rfl,
      hdata "batch_processor".toList rfl, hdata "batch_size".toList rfl]
  | config =>
    have hfields : Shape.optional ms "fields".toList [] (Shape.list Field.check) =
        Shape.optional ns "fields".toList [] (Shape.list Field.check) :=
      Shape.optional_congr (h _ (.parts .field) rfl) fun _ _ hagree => hagree.2
    have hname : Shape.optional ms "name".toList [] Scalar.text =
        Shape.optional ns "name".toList [] Scalar.text := by
      rw [Shape.optional, Shape.optional, hdata _ rfl]
    change Config.check (.object ms) = Config.check (.object ns)
    simp only [Config.check, Shape.object, hname, hfields]
  | event =>
    change Event.check (.object ms) = Event.check (.object ns)
    simp only [Event.check, Shape.object, Shape.required, Shape.optional, hdata "id".toList rfl,
      hdata "name".toList rfl, hdata "code".toList rfl]
  | position =>
    change Position.check (.object ms) = Position.check (.object ns)
    simp only [Position.check, Shape.object, Shape.optional, hdata "x".toList rfl,
      hdata "y".toList rfl]
  | nodeData =>
    exact Shape.required_congr (h _ (.part .event) rfl) fun _ _ hagree => hagree.2
  | node =>
    have hid : Shape.required ms "id".toList Scalar.text =
        Shape.required ns "id".toList Scalar.text := by
      rw [Shape.required, Shape.required, hdata _ rfl]
    have hkind : Shape.optional ms "type".toList Node.eventKind Scalar.text =
        Shape.optional ns "type".toList Node.eventKind Scalar.text := by
      rw [Shape.optional, Shape.optional, hdata _ rfl]
    have hposition : Shape.optional ms "position".toList (some Position.origin)
          (fun v => (Position.check v).map some) =
        Shape.optional ns "position".toList (some Position.origin)
          (fun v => (Position.check v).map some) :=
      Shape.optional_congr (h _ (.part .position) rfl) fun _ _ hagree =>
        congrArg (Except.map some) hagree.2
    have hcontents : Shape.required ms "data".toList Node.checkData =
        Shape.required ns "data".toList Node.checkData :=
      Shape.required_congr (h _ (.part .nodeData) rfl) fun _ _ hagree => hagree.2
    change Node.check (.object ms) = Node.check (.object ns)
    simp only [Node.check, Shape.object, hid, hkind, hposition, hcontents]
  | connection =>
    change Connection.check (.object ms) = Connection.check (.object ns)
    simp only [Connection.check, Shape.object, Shape.required, hdata "id".toList rfl,
      hdata "source".toList rfl, hdata "target".toList rfl]
  | document =>
    have hconfig : Document.givenOr ms "config".toList Config.empty Config.check =
        Document.givenOr ns "config".toList Config.empty Config.check :=
      Document.givenOr_congr (h _ (.part .config) rfl) (fun _ _ hagree => hagree.1)
        fun _ _ hagree => hagree.2
    have hnodes : Document.givenOr ms "nodes".toList [] (Shape.list Node.check) =
        Document.givenOr ns "nodes".toList [] (Shape.list Node.check) :=
      Document.givenOr_congr (h _ (.parts .node) rfl) (fun _ _ hagree => hagree.1)
        fun _ _ hagree => hagree.2
    have hedges : Document.givenOr ms "edges".toList [] (Shape.list Connection.check) =
        Document.givenOr ns "edges".toList [] (Shape.list Connection.check) :=
      Document.givenOr_congr (h _ (.parts .connection) rfl) (fun _ _ hagree => hagree.1)
        fun _ _ hagree => hagree.2
    change Document.ofMembers ms = Document.ofMembers ns
    simp only [Document.ofMembers, hconfig, hnodes, hedges]

/-! ## Rearranged values -/

namespace Rearranged

variable {role : Role} {v w : Json}

/-- No check of its role tells a value from itself. -/
lemma agree_refl (role : Role) (v : Json) : role.Agree v v := by
  cases role with
  | data => rfl
  | part p => exact ⟨rfl, rfl⟩
  | parts p => exact ⟨rfl, rfl⟩

/-- No check tells rearranged values apart. -/
lemma agree (h : Rearranged role v w) : role.Agree v w := by
  induction h with
  | refl role v => exact agree_refl role v
  | @symm role v w _ ih =>
    cases role with
    | data => exact ih.symm
    | part p => exact ⟨ih.1.symm, ih.2.symm⟩
    | parts p => exact ⟨ih.1.symm, ih.2.symm⟩
  | @trans role u v w _ _ ih ih' =>
    cases role with
    | data => exact ih.trans ih'
    | part p => exact ⟨ih.1.trans ih'.1, ih.2.trans ih'.2⟩
    | parts p => exact ⟨ih.1.trans ih'.1, ih.2.trans ih'.2⟩
  | @extra p before after key v undeclared =>
    -- What is looked up is declared, so it is not what was removed.
    refine ⟨rfl, p.check_congr fun name role hrole => .inl ?_⟩
    apply Dictionary.get?_insert_of_ne before after
    rintro rfl
    rw [hrole] at undeclared
    contradiction
  | @order p members members' perm distinct =>
    exact ⟨rfl, p.check_congr fun name _ _ => .inl (Dictionary.get?_perm perm distinct name)⟩
  | null single =>
    exact ⟨rfl, Document.ofMembers_congr (Document.givenMember?_insert_null single)⟩
  | @member p role before after key v w declared _ ih =>
    refine ⟨rfl, p.check_congr fun name role' hrole => ?_⟩
    apply Dictionary.agreeAt_of_entry before after
    rintro rfl
    rw [declared] at hrole
    obtain rfl := Option.some.inj hrole
    exact ih
  | item _ ih => exact ⟨rfl, Checked.items_congr ih.2 _ _ 0⟩

/-- The members of a part can be stripped behind other ones when their values can. -/
lemma stripMembers (p : Part) {members : List (Text × Json)}
    (h : ∀ m ∈ members, ∀ role : Role, Rearranged role m.2 (role.strip m.2))
    (before : List (Text × Json)) :
    Rearranged (.part p) (.object (before ++ members))
      (.object (before ++ p.stripMembers members)) := by
  induction members generalizing before with
  | nil => exact .refl _ _
  | cons m rest ih =>
    obtain ⟨key, v⟩ := m
    have ih := ih fun m hm => h m (List.mem_cons_of_mem _ hm)
    rw [Part.stripMembers]
    cases hrole : Dictionary.get? p.roles key with
    | none => exact .trans (.extra hrole) (ih before)
    | some role =>
      -- The member stays, and is among those in front from here on.
      have hrest := ih (before ++ [(key, role.strip v)])
      rw [List.append_assoc, List.append_assoc] at hrest
      exact .trans (.member hrole (h _ List.mem_cons_self role)) hrest

/-- The items of a list can be stripped behind other ones when each of them can. -/
lemma stripItems (p : Part) {items : List Json}
    (h : ∀ v ∈ items, ∀ role : Role, Rearranged role v (role.strip v)) (before : List Json) :
    Rearranged (.parts p) (.list (before ++ items)) (.list (before ++ p.stripItems items)) := by
  induction items generalizing before with
  | nil => exact .refl _ _
  | cons v rest ih =>
    have hrest := ih (fun v hv => h v (List.mem_cons_of_mem _ hv))
      (before ++ [Role.strip (.part p) v])
    rw [List.append_assoc, List.append_assoc] at hrest
    rw [Part.stripItems]
    exact .trans (.item (h v List.mem_cons_self (.part p))) hrest

/-- Stripping a value rearranges it. -/
lemma strip (role : Role) (v : Json) : Rearranged role v (role.strip v) := by
  induction v using Json.induction generalizing role with
  | list items ih =>
    cases role with
    | parts p => exact stripItems p ih []
    | _ => exact .refl _ _
  | object members ih =>
    cases role with
    | part p => exact stripMembers p ih []
    | _ => exact .refl _ _
  | _ => cases role <;> exact .refl _ _

end Rearranged

/-- Loading an object is checking it as a document. -/
lemma Document.ofJson_object (members : List (Text × Json)) :
    ofJson (.object members) = (Part.document.check (.object members)).mapError .invalid :=
  rfl

/-- Loading does not look at what a part does not declare, at the order of members, or at whether
the configuration, the nodes and the edges are null or missing: objects that differ in nothing else
load alike, whether they are valid or not, to the same document or with the same issues in the same
order. An object with all of that taken out that is not declared is one of those. -/
theorem Document.ofJson_rearranged :
    (∀ members members', Rearranged (.part .document) (.object members) (.object members') →
      ofJson (.object members) = ofJson (.object members')) ∧
    (∀ members, ofJson (Role.strip (.part .document) (.object members)) =
      ofJson (.object members)) := by
  have hrearranged : ∀ members members',
      Rearranged (.part .document) (.object members) (.object members') →
        ofJson (.object members) = ofJson (.object members') := by
    intro members members' h
    rw [ofJson_object, ofJson_object, h.agree.2]
  refine ⟨hrearranged, fun members => ?_⟩
  exact (hrearranged _ _ (Rearranged.strip _ _)).symm

/-- What a canvas exports: nodes and events are shown with more than they have, and the edges are
null. The name of the event is no text. -/
def Document.canvas : List (Text × Json) :=
  [("viewport".toList, .object [("zoom".toList, .int 1)]),
    ("edges".toList, .null),
    ("nodes".toList, .list [.object [("selected".toList, .bool true), ("id".toList, .text ['a']),
      ("data".toList, .object [("label".toList, .text ['A']),
        ("event".toList, .object [("name".toList, .int 5), ("icon".toList, .null),
          ("id".toList, .text ['a'])])])]])]

/-- The same as an editor writes it. -/
def Document.written : List (Text × Json) :=
  [("config".toList, .null),
    ("nodes".toList, .list [.object [("id".toList, .text ['a']),
      ("data".toList, .object [("event".toList, .object [("id".toList, .text ['a']),
        ("name".toList, .int 5)])])]])]

/-- What a canvas exports and what an editor writes fail alike, with the one issue that there is. -/
theorem Document.ofJson_rearranged_canvas :
    ofJson (.object canvas) = ofJson (.object written) ∧
      ofJson (.object written) = .error (.invalid [⟨.noText, [.member "nodes".toList, .item 0,
        .member "data".toList, .member "event".toList, .member "name".toList]⟩]) := by
  refine ⟨Document.ofJson_rearranged.1 _ _ ?_, by decide⟩
  have hevent : Rearranged (.part .event)
      (.object [("name".toList, .int 5), ("id".toList, .text ['a'])])
      (.object [("id".toList, .text ['a']), ("name".toList, .int 5)]) :=
    .order (.swap _ _ _) (by decide)
  have hdata : Rearranged (.part .nodeData)
      (.object [("event".toList, .object [("name".toList, .int 5), ("id".toList, .text ['a'])])])
      (.object [("event".toList, .object [("id".toList, .text ['a']), ("name".toList, .int 5)])]) :=
    @Rearranged.member _ (.part .event) [] [] _ _ _ rfl hevent
  have hnode := @Rearranged.member .node (.part .nodeData) [("id".toList, .text ['a'])] []
    "data".toList _ _ rfl hdata
  have hnodes := @Rearranged.member .document (.parts .node) [] [] "nodes".toList _ _ rfl
    (@Rearranged.item .node [] [] _ _ hnode)
  -- What is stripped has null edges in front, in whose place the configuration is null.
  refine .trans (Rearranged.strip _ _) (.trans (@Rearranged.null [] _ _ ?_) (.trans hnodes ?_))
  · decide
  · exact .symm (@Rearranged.null [] _ _ (by decide))

end EventPipeline
