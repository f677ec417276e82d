import EventPipeline.Proofs.Json.Number
import EventPipeline.Proofs.Json.Quoted
import EventPipeline.Proofs.Json.Value

/-!
# Reading written values

A value whose objects have distinct keys and whose integers are short reads back from its text in
every style that sets items off by gaps only (`ofText_render`). Integers stay integers and numbers
in double precision stay such, the ones that are not finite included.

The value is read in front of any text that does not continue a number, so that the statement goes
through the parts of a list or an object; the depth that the reader allows is never used up, because
a text is longer than it is deep.
-/

namespace EventPipeline.Json

/-! ## Gaps -/

/-- A style that sets items off by gaps only. -/
def Style.IsBlank (style : Style) : Prop :=
  ∀ level, ∀ c ∈ style.gap level, isGap c = true

/-- An indentation sets items off by gaps only. -/
lemma Style.isBlank_ofIndent (indent : Option Int) : (Style.ofIndent indent).IsBlank := by
  intro level c hc
  cases indent with
  | none => exact absurd hc (by simp [Style.ofIndent, Style.gap])
  | some width =>
    rcases List.mem_cons.1 hc with rfl | hc
    · rfl
    · rw [List.eq_of_mem_replicate hc]
      rfl

/-- What stands between two items is a comma and a gap. -/
lemma Style.IsBlank.separator_eq {style : Style} (h : style.IsBlank) (level : Nat) :
    ∃ blanks, style.separator level = ',' :: blanks ∧ ∀ c ∈ blanks, isGap c = true := by
  cases style with
  | inline => exact ⟨[' '], rfl, List.all_eq_true.1 rfl⟩
  | indented width => exact ⟨_, rfl, h level⟩
  | marked unit => exact ⟨_, rfl, h level⟩

/-- A gap is skipped. -/
lemma skipGap_append {blanks : Text} (h : ∀ c ∈ blanks, isGap c = true) (s : Text) :
    skipGap (blanks ++ s) = skipGap s :=
  List.dropWhile_append_of_pos h

/-- Nothing else is skipped. -/
lemma skipGap_cons {c : Char} (h : isGap c = false) (s : Text) : skipGap (c :: s) = c :: s := by
  rw [skipGap, List.dropWhile_cons_of_neg (by simp [h])]

/-- A gap with a bracket or a brace behind it ends a number. -/
lemma endsNumber_append {blanks : Text} (hblanks : ∀ c ∈ blanks, isGap c = true) {c : Char}
    (hc : c = ']' ∨ c = '}') (rest : Text) : EndsNumber (blanks ++ c :: rest) := by
  intro d hd
  cases blanks with
  | nil =>
    obtain rfl : c = d := Option.some.inj hd
    rcases hc with rfl | rfl <;> decide
  | cons b blanks =>
    obtain rfl : b = d := Option.some.inj hd
    have hb := hblanks b List.mem_cons_self
    simp only [isGap, Bool.or_eq_true, beq_iff_eq] at hb
    rcases hb with ((rfl | rfl) | rfl) | rfl <;> decide

/-- A comma ends a number. -/
lemma endsNumber_comma (rest : Text) : EndsNumber (',' :: rest) := by
  intro d hd
  obtain rfl : ',' = d := Option.some.inj hd
  decide

/-! ## Words and numbers -/

/-- Characters that no word and no number begins with: the gaps, the quote, brackets, braces and the
byte order mark. -/
def foreignStarts : List Char :=
  [' ', '\t', '\n', '\r', '"', '[', '{', ']', '}', Char.ofNat 0xFEFF]

/-- The text of a word or a number begins with none of these characters. -/
lemma exists_cons_of_scalar {s : Text} {p : Json × Text} (h : scalar s = .ok p) :
    ∃ c t, s = c :: t ∧ c ∉ foreignStarts := by
  have hforeign : ∀ c ∈ foreignStarts, ∀ t, scalar (c :: t) = stopAt .value (c :: t) := by
    intro c hc t
    simp only [foreignStarts, List.mem_cons, List.not_mem_nil, or_false] at hc
    rcases hc with rfl | rfl | rfl | rfl | rfl | rfl | rfl | rfl | rfl | rfl <;> rfl
  cases s with
  | nil => contradiction
  | cons c t =>
    refine ⟨c, t, rfl, fun hc => ?_⟩
    rw [hforeign c hc] at h
    contradiction

/-- A word or a number is a value. -/
lemma value_of_scalar {s : Text} {p : Json × Text} (h : scalar s = .ok p) (depth : Nat) :
    value (depth + 1) s = .ok p := by
  obtain ⟨c, t, rfl, hc⟩ := exists_cons_of_scalar h
  rw [← h, value]
  · exact fun _ hs => hc ((List.cons.inj hs).1 ▸ by decide)
  · exact fun _ hs => hc ((List.cons.inj hs).1 ▸ by decide)
  · exact fun _ hs => hc ((List.cons.inj hs).1 ▸ by decide)

/-- The text of a value begins neither with a gap nor with the end of a list nor with a byte order
mark. -/
lemma exists_cons_renderAt (style : Style) (level : Nat) {v : Json} (hv : v.isWritable = true) :
    ∃ c t, renderAt style level v = c :: t ∧ isGap c = false ∧ c ≠ ']' ∧
      c ≠ Char.ofNat 0xFEFF := by
  have hnil : EndsNumber [] := by simp [EndsNumber]
  have hscalar : ∀ {s : Text} {p : Json × Text}, scalar (s ++ []) = .ok p →
      ∃ c t, s = c :: t ∧ isGap c = false ∧ c ≠ ']' ∧ c ≠ Char.ofNat 0xFEFF := by
    intro s p h
    rw [List.append_nil] at h
    obtain ⟨c, t, hs, hc⟩ := exists_cons_of_scalar h
    simp only [foreignStarts, List.mem_cons, List.not_mem_nil, or_false, not_or] at hc
    refine ⟨c, t, hs, ?_, by tauto⟩
    simp [isGap, hc]
  cases v with
  | null => exact ⟨'n', _, rfl, rfl, by decide⟩
  | bool b =>
    cases b
    · exact ⟨'f', _, rfl, rfl, by decide⟩
    · exact ⟨'t', _, rfl, rfl, by decide⟩
  | int n =>
    rw [renderAt]
    exact hscalar (scalar_ofInt hv hnil)
  | float x =>
    rw [renderAt]
    exact hscalar (scalar_toText x hnil)
  | text s => exact ⟨'"', _, rfl, rfl, by decide⟩
  | list items =>
    cases items with
    | nil => exact ⟨'[', _, rfl, rfl, by decide⟩
    | cons v rest => exact ⟨'[', _, rfl, rfl, by decide⟩
  | object members =>
    cases members with
    | nil => exact ⟨'{', _, rfl, rfl, by decide⟩
    | cons m rest => exact ⟨'{', _, rfl, rfl, by decide⟩

/-- Nothing is skipped in front of a value. -/
lemma skipGap_renderAt (style : Style) (level : Nat) {v : Json} (hv : v.isWritable = true)
    (rest : Text) :
    skipGap (renderAt style level v ++ rest) = renderAt style level v ++ rest := by
  obtain ⟨c, t, ht, hgap, -, -⟩ := exists_cons_renderAt style level hv
  rw [ht, List.cons_append, skipGap_cons hgap]

/-- A space in front of a value is skipped. -/
lemma skipGap_space_renderAt (style : Style) (level : Nat) {v : Json} (hv : v.isWritable = true)
    (rest : Text) :
    skipGap (' ' :: (renderAt style level v ++ rest)) = renderAt style level v ++ rest :=
  skipGap_renderAt style level hv rest

/-- Nothing is skipped in front of a text in quotes. -/
lemma skipGap_quote (s rest : Text) : skipGap (quote s ++ rest) = quote s ++ rest :=
  skipGap_cons rfl _

/-! ## Lists and objects -/

/-- A reader gives a value for a text, whatever stands behind it that does not continue a number. -/
def ReadsAs (item : Text → Reading Json) (s : Text) (v : Json) : Prop :=
  ∀ rest, EndsNumber rest → item (s ++ rest) = .ok (v, rest)

variable {style : Style} {level : Nat} {item : Text → Reading Json}

/-- An item in front of the closing bracket is the last one. -/
lemma items_last {s r rest : Text} {v : Json} (hitem : item s = .ok (v, r))
    (hgap : skipGap r = ']' :: rest) (limit : Nat) :
    items item (limit + 1) s = .ok ([v], rest) := by
  simp only [items, hitem, hgap]

/-- An item in front of a comma is followed by others. -/
lemma items_next {s r s' rest : Text} {v : Json} {vs : List Json} {limit : Nat}
    (hitem : item s = .ok (v, r)) (hgap : skipGap r = ',' :: s')
    (hrest : items item limit (skipGap s') = .ok (vs, rest)) :
    items item (limit + 1) s = .ok (v :: vs, rest) := by
  simp only [items, hitem, hgap, hrest]

/-- Items that read back one by one read back as a list. -/
lemma items_renderItems (hstyle : style.IsBlank) {v : Json} {vs : List Json}
    (hitem : ∀ w ∈ v :: vs, ReadsAs item (renderAt style (level + 1) w) w)
    (hshort : ∀ w ∈ v :: vs, w.isWritable = true) {limit : Nat} (hlimit : vs.length < limit)
    (rest : Text) :
    items item limit (renderAt style (level + 1) v ++
      (renderItems style level vs ++ (style.gap (level - 1) ++ ']' :: rest))) =
      .ok (v :: vs, rest) := by
  obtain ⟨limit, rfl⟩ := Nat.exists_eq_add_one_of_ne_zero (Nat.ne_zero_of_lt hlimit)
  induction vs generalizing v limit with
  | nil =>
    have hends := endsNumber_append (hstyle (level - 1)) (Or.inl rfl : ']' = ']' ∨ _) rest
    rw [renderItems, List.nil_append]
    exact items_last (hitem v List.mem_cons_self _ hends)
      ((skipGap_append (hstyle _) _).trans (skipGap_cons rfl rest)) limit
  | cons w ws ih =>
    obtain ⟨limit, rfl⟩ := Nat.exists_eq_add_one_of_ne_zero
      (Nat.ne_zero_of_lt (Nat.lt_of_succ_lt_succ hlimit))
    obtain ⟨blanks, hseparator, hblanks⟩ := hstyle.separator_eq level
    have hw : w.isWritable = true := hshort w (List.mem_cons_of_mem v List.mem_cons_self)
    have hrest := ih (fun u hu => hitem u (List.mem_cons_of_mem v hu))
      (fun u hu => hshort u (List.mem_cons_of_mem v hu)) limit (Nat.lt_of_succ_lt_succ hlimit)
    simp only [renderItems, hseparator, List.cons_append, List.append_assoc]
    refine items_next (hitem v List.mem_cons_self _ (endsNumber_comma _)) (skipGap_cons rfl _) ?_
    rw [skipGap_append hblanks, skipGap_renderAt style _ hw, hrest]

/-- A member in front of the closing brace is the last one. -/
lemma members_last {s r rest key : Text} {v : Json} (hitem : item (skipGap s) = .ok (v, r))
    (hgap : skipGap r = '}' :: rest) (limit : Nat) :
    members item (limit + 1) (quote key ++ ':' :: s) = .ok ([(key, v)], rest) := by
  have hcolon : skipGap (':' :: s) = ':' :: s := skipGap_cons rfl s
  simp only [quote, List.cons_append, List.append_assoc, List.nil_append, members, quoted_quote,
    hcolon, hitem, hgap]

/-- A member in front of a comma is followed by others. -/
lemma members_next {s r s' rest key : Text} {v : Json} {ms : List (Text × Json)} {limit : Nat}
    (hitem : item (skipGap s) = .ok (v, r)) (hgap : skipGap r = ',' :: s')
    (hrest : members item limit (skipGap s') = .ok (ms, rest)) :
    members item (limit + 1) (quote key ++ ':' :: s) = .ok ((key, v) :: ms, rest) := by
  have hcolon : skipGap (':' :: s) = ':' :: s := skipGap_cons rfl s
  simp only [quote, List.cons_append, List.append_assoc, List.nil_append, members, quoted_quote,
    hcolon, hitem, hgap, hrest]

/-- Members whose values read back one by one read back as an object. -/
lemma members_renderMembers (hstyle : style.IsBlank) {key : Text} {v : Json}
    {ms : List (Text × Json)}
    (hitem : ∀ m ∈ (key, v) :: ms, ReadsAs item (renderAt style (level + 1) m.2) m.2)
    (hshort : ∀ m ∈ (key, v) :: ms, m.2.isWritable = true) {limit : Nat}
    (hlimit : ms.length < limit) (rest : Text) :
    members item limit (quote key ++ ':' :: ' ' :: (renderAt style (level + 1) v ++
      (renderMembers style level ms ++ (style.gap (level - 1) ++ '}' :: rest)))) =
      .ok ((key, v) :: ms, rest) := by
  obtain ⟨limit, rfl⟩ := Nat.exists_eq_add_one_of_ne_zero (Nat.ne_zero_of_lt hlimit)
  induction ms generalizing key v limit with
  | nil =>
    have hends := endsNumber_append (hstyle (level - 1)) (Or.inr rfl : '}' = ']' ∨ _) rest
    rw [renderMembers, List.nil_append]
    refine members_last (v := v) ?_
      ((skipGap_append (hstyle (level - 1)) _).trans (skipGap_cons rfl rest)) limit
    rw [skipGap_space_renderAt style _ (hshort _ List.mem_cons_self)]
    exact hitem _ List.mem_cons_self _ hends
  | cons m ms ih =>
    obtain ⟨key', w⟩ := m
    obtain ⟨limit, rfl⟩ := Nat.exists_eq_add_one_of_ne_zero
      (Nat.ne_zero_of_lt (Nat.lt_of_succ_lt_succ hlimit))
    obtain ⟨blanks, hseparator, hblanks⟩ := hstyle.separator_eq level
    have hrest := ih (fun u hu => hitem u (List.mem_cons_of_mem _ hu))
      (fun u hu => hshort u (List.mem_cons_of_mem _ hu)) limit (Nat.lt_of_succ_lt_succ hlimit)
    have hkey : ∀ t, skipGap (blanks ++ (quote key' ++ t)) = quote key' ++ t := fun t =>
      (skipGap_append hblanks _).trans (skipGap_quote key' t)
    simp only [renderMembers, hseparator, List.cons_append, List.append_assoc, List.nil_append]
    refine members_next (v := v) ?_ (skipGap_cons rfl _) ((congrArg _ (hkey _)).trans hrest)
    rw [skipGap_space_renderAt style _ (hshort _ List.mem_cons_self)]
    exact hitem _ List.mem_cons_self _ (endsNumber_comma _)

/-! ## Lengths -/

/-- The text of items is longer than there are items, and than that of each item. -/
lemma length_renderItems (style : Style) (level : Nat) (vs : List Json) :
    vs.length ≤ (renderItems style level vs).length ∧
      ∀ w ∈ vs, (renderAt style (level + 1) w).length < (renderItems style level vs).length := by
  have hseparator : 0 < (style.separator level).length := by
    cases style <;> exact Nat.succ_pos _
  induction vs with
  | nil => simp [renderItems]
  | cons v vs ih =>
    obtain ⟨hcount, heach⟩ := ih
    simp only [renderItems, List.length_append, List.length_cons, List.mem_cons]
    refine ⟨by omega, ?_⟩
    rintro w (rfl | hw)
    · omega
    · have := heach w hw
      omega

/-- The text of members is longer than there are members, and than that of each value. -/
lemma length_renderMembers (style : Style) (level : Nat) (ms : List (Text × Json)) :
    ms.length ≤ (renderMembers style level ms).length ∧
      ∀ m ∈ ms, (renderAt style (level + 1) m.2).length <
        (renderMembers style level ms).length := by
  have hseparator : 0 < (style.separator level).length := by
    cases style <;> exact Nat.succ_pos _
  induction ms with
  | nil => simp [renderMembers]
  | cons m ms ih =>
    obtain ⟨key, v⟩ := m
    obtain ⟨hcount, heach⟩ := ih
    simp only [renderMembers, List.length_append, List.length_cons, List.mem_cons]
    refine ⟨by omega, ?_⟩
    rintro m (rfl | hm)
    · dsimp only
      omega
    · have := heach m hm
      omega

/-! ## Values -/

/-- A text in quotes is a value. -/
lemma value_quote (depth : Nat) (s rest : Text) :
    value (depth + 1) (quote s ++ rest) = .ok (.text s, rest) := by
  simp only [quote, List.cons_append, List.append_assoc, List.nil_append, value, quoted_quote]
  rfl

/-- A bracket opens a list, which has items unless it is closed at once. -/
lemma value_bracket {depth : Nat} {s body rest : Text} {vs : List Json}
    (hgap : skipGap body = s) (hs : s.head? ≠ some ']')
    (hitems : items (value depth) depth s = .ok (vs, rest)) :
    value (depth + 1) ('[' :: body) = .ok (.list vs, rest) := by
  simp only [value, hgap]
  split
  · exact absurd rfl hs
  · rw [hitems]
    rfl

/-- A brace opens an object, which has members unless it is closed at once. -/
lemma value_brace {depth : Nat} {s body rest : Text} {ms : List (Text × Json)}
    (hgap : skipGap body = s) (hs : s.head? ≠ some '}')
    (hmembers : members (value depth) depth s = .ok (ms, rest)) :
    value (depth + 1) ('{' :: body) = .ok (.object (Dictionary.ofBindings ms), rest) := by
  simp only [value, hgap]
  split
  · exact absurd rfl hs
  · rw [hmembers]
    rfl

/-- A value reads back from its text if the reader may go as deep as the text is long. -/
lemma value_renderAt (hstyle : style.IsBlank) (v : Json) :
    v.distinctKeys = true → v.isWritable = true → ∀ level depth,
      (renderAt style level v).length < depth →
        ReadsAs (value depth) (renderAt style level v) v := by
  induction v using Json.induction with
  | null =>
    intro _ _ level depth hdepth rest _
    obtain ⟨depth, rfl⟩ := Nat.exists_eq_add_one_of_ne_zero (Nat.ne_zero_of_lt hdepth)
    rw [renderAt]
    exact value_of_scalar (s := 'n' :: 'u' :: 'l' :: 'l' :: rest) rfl depth
  | bool b =>
    intro _ _ level depth hdepth rest _
    obtain ⟨depth, rfl⟩ := Nat.exists_eq_add_one_of_ne_zero (Nat.ne_zero_of_lt hdepth)
    cases b
    · rw [renderAt]
      exact value_of_scalar (s := 'f' :: 'a' :: 'l' :: 's' :: 'e' :: rest) rfl depth
    · rw [renderAt]
      exact value_of_scalar (s := 't' :: 'r' :: 'u' :: 'e' :: rest) rfl depth
  | int n =>
    intro _ hshort level depth hdepth rest hrest
    obtain ⟨depth, rfl⟩ := Nat.exists_eq_add_one_of_ne_zero (Nat.ne_zero_of_lt hdepth)
    rw [renderAt]
    exact value_of_scalar (scalar_ofInt hshort hrest) depth
  | float x =>
    intro _ _ level depth hdepth rest hrest
    obtain ⟨depth, rfl⟩ := Nat.exists_eq_add_one_of_ne_zero (Nat.ne_zero_of_lt hdepth)
    rw [renderAt]
    exact value_of_scalar (scalar_toText x hrest) depth
  | text s =>
    intro _ _ level depth hdepth rest _
    obtain ⟨depth, rfl⟩ := Nat.exists_eq_add_one_of_ne_zero (Nat.ne_zero_of_lt hdepth)
    rw [renderAt]
    exact value_quote depth s rest
  | list items ih =>
    intro hdistinct hshort level depth hdepth rest _
    rw [distinctKeys_list] at hdistinct
    rw [isWritable_list] at hshort
    obtain ⟨depth, rfl⟩ := Nat.exists_eq_add_one_of_ne_zero (Nat.ne_zero_of_lt hdepth)
    cases items with
    | nil => rfl
    | cons v vs =>
      obtain ⟨hcount, heach⟩ := length_renderItems style level vs
      simp only [renderAt, List.length_cons, List.length_append, List.length_nil] at hdepth
      have hitem : ∀ w ∈ v :: vs, ReadsAs (value depth) (renderAt style (level + 1) w) w := by
        intro w hw
        refine ih w hw (hdistinct w hw) (hshort w hw) (level + 1) depth ?_
        rcases List.mem_cons.1 hw with rfl | hw
        · omega
        · have := heach w hw
          omega
      have hlimit : vs.length < depth := by omega
      have hitems := items_renderItems hstyle hitem hshort hlimit rest
      have hv : v.isWritable = true := hshort v List.mem_cons_self
      obtain ⟨c, t, ht, -, hc, -⟩ := exists_cons_renderAt style (level + 1) hv
      simp only [renderAt, List.cons_append, List.append_assoc, List.nil_append]
      refine value_bracket ?_ ?_ hitems
      · rw [skipGap_append (hstyle level), skipGap_renderAt style _ hv]
      · rw [ht, List.cons_append, List.head?_cons, ne_eq, Option.some.injEq]
        exact hc
  | object members ih =>
    intro hdistinct hshort level depth hdepth rest _
    rw [distinctKeys_object] at hdistinct
    rw [isWritable_object] at hshort
    obtain ⟨depth, rfl⟩ := Nat.exists_eq_add_one_of_ne_zero (Nat.ne_zero_of_lt hdepth)
    cases members with
    | nil => rfl
    | cons m ms =>
      obtain ⟨key, v⟩ := m
      obtain ⟨hcount, heach⟩ := length_renderMembers style level ms
      simp only [renderAt, List.length_cons, List.length_append, List.length_nil] at hdepth
      have hitem : ∀ m ∈ (key, v) :: ms,
          ReadsAs (value depth) (renderAt style (level + 1) m.2) m.2 := by
        intro m hm
        refine ih m hm (hdistinct.2 m hm) (hshort m hm) (level + 1) depth ?_
        rcases List.mem_cons.1 hm with rfl | hm
        · dsimp only
          omega
        · have := heach m hm
          omega
      have hlimit : ms.length < depth := by omega
      have hmembers := members_renderMembers hstyle hitem hshort hlimit rest
      simp only [renderAt, List.cons_append, List.append_assoc, List.nil_append]
      have hgap : ∀ t, skipGap (style.gap level ++ (quote key ++ t)) = quote key ++ t := fun t =>
        (skipGap_append (hstyle level) _).trans (skipGap_quote key t)
      rw [value_brace (hgap _) (by simp [quote]) hmembers,
        Dictionary.ofBindings_of_nodup hdistinct.1]

/-- A value whose objects have distinct keys and whose integers are short reads back from its text
in every style that sets items off by gaps only. -/
theorem ofText_render (hstyle : style.IsBlank) {v : Json} (hdistinct : v.distinctKeys = true)
    (hshort : v.isWritable = true) : ofText (render style v) = .ok v := by
  obtain ⟨c, t, ht, -, -, hmark⟩ := exists_cons_renderAt style 1 hshort
  have hhead : (render style v).head? ≠ some (Char.ofNat 0xFEFF) := by
    rw [render, ht, List.head?_cons, ne_eq, Option.some.injEq]
    exact hmark
  have hvalue := value_renderAt hstyle v hdistinct hshort 1 ((render style v).length + 1)
    (Nat.lt_succ_self _) [] (by simp [EndsNumber])
  have hgap := skipGap_renderAt style 1 hshort []
  rw [List.append_nil] at hvalue hgap
  rw [ofText, if_neg hhead, ofUnmarked, whole]
  unfold render at hvalue ⊢
  rw [hgap, hvalue]
  rfl

end EventPipeline.Json
