import EventPipeline.Json.Printer
import EventPipeline.Proofs.Json.Value

/-!
# Interchange text is printable

What is written consists of printable characters of the first half of the code table, but for what
sets items off from each other (`shows_of_mem_renderAt`), whatever the texts in the value hold. On
one line nothing else is left (`isPrintable_of_mem_render`), so nothing that treats line ends or
encodings in its own way can change it.
-/

namespace EventPipeline

/-- The characters from the space to the tilde. -/
def IsPrintable (c : Char) : Prop :=
  0x20 ≤ c.toNat ∧ c.toNat ≤ 0x7E

instance (c : Char) : Decidable (IsPrintable c) :=
  inferInstanceAs (Decidable (0x20 ≤ c.toNat ∧ c.toNat ≤ 0x7E))

/-- The characters of a text are looked at one by one. -/
lemma isPrintable_of_all {s : Text} (h : (s.all fun c => decide (IsPrintable c)) = true) :
    ∀ c ∈ s, IsPrintable c :=
  fun c hc => of_decide_eq_true (List.all_eq_true.1 h c hc)

/-! ## Numerals -/

/-- The digit of any number is printable. -/
lemma isPrintable_digitChar (n : Nat) : IsPrintable (Nat.digitChar n) := by
  by_cases h : n < 16
  · have hall : ∀ m, m < 16 → IsPrintable (Nat.digitChar m) := by decide
    exact hall n h
  · rw [Nat.digitChar_eq_star.2 (Nat.le_of_not_lt h)]
    decide

/-- The digits of a number are printable in every base. -/
lemma isPrintable_of_mem_toDigits {b n : Nat} (hb : 1 < b) {c : Char}
    (h : c ∈ Nat.toDigits b n) : IsPrintable c := by
  induction n using Nat.strongRecOn with
  | ind n ih =>
    rw [Nat.toDigits_eq_if hb] at h
    split at h
    · rw [List.mem_singleton.1 h]
      exact isPrintable_digitChar n
    · rcases List.mem_append.1 h with h | h
      · exact ih (n / b) (Nat.div_lt_self (by omega) hb) h
      · rw [List.mem_singleton.1 h]
        exact isPrintable_digitChar _

/-- Zeros are printable. -/
lemma isPrintable_of_mem_zeros {k : Nat} {c : Char} (h : c ∈ List.replicate k '0') :
    IsPrintable c := by
  rw [List.eq_of_mem_replicate h]
  decide

/-- A decimal numeral is printable. -/
lemma Text.isPrintable_of_mem_ofNat {n : Nat} {c : Char} (h : c ∈ ofNat n) : IsPrintable c :=
  isPrintable_of_mem_toDigits (by decide) h

/-- The numeral of an integer is printable. -/
lemma Text.isPrintable_of_mem_ofInt {n : Int} {c : Char} (h : c ∈ ofInt n) : IsPrintable c := by
  unfold ofInt at h
  split at h
  · rcases List.mem_cons.1 h with rfl | h
    · decide
    · exact isPrintable_of_mem_ofNat h
  · exact isPrintable_of_mem_ofNat h

/-- A hexadecimal numeral is printable. -/
lemma Text.isPrintable_of_mem_ofHex {width n : Nat} {c : Char} (h : c ∈ ofHex width n) :
    IsPrintable c := by
  rcases List.mem_append.1 h with h | h
  · exact isPrintable_of_mem_zeros h
  · exact isPrintable_of_mem_toDigits (by decide) h

namespace Binary64

/-- The text of an exponent is printable. -/
lemma isPrintable_of_mem_exponentText {e : Int} {c : Char} (h : c ∈ exponentText e) :
    IsPrintable c := by
  rcases List.mem_cons.1 h with rfl | h
  · split <;> decide
  rcases List.mem_append.1 h with h | h
  · exact isPrintable_of_mem_zeros h
  · exact Text.isPrintable_of_mem_ofNat h

/-- Printable digits are printable in positional notation. -/
lemma isPrintable_of_mem_positional {digits : Text} (hdigits : ∀ c ∈ digits, IsPrintable c)
    {exponent : Int} {c : Char} (h : c ∈ positional digits exponent) : IsPrintable c := by
  unfold positional at h
  split at h
  · simp only [List.append_assoc, List.mem_append, List.mem_cons, List.not_mem_nil, or_false] at h
    rcases h with h | h | rfl | rfl
    · exact hdigits c h
    · exact isPrintable_of_mem_zeros h
    · decide
    · decide
  · have hpadded : ∀ k, ∀ c ∈ List.replicate k '0' ++ digits, IsPrintable c := by
      intro k c hc
      rcases List.mem_append.1 hc with hc | hc
      · exact isPrintable_of_mem_zeros hc
      · exact hdigits c hc
    rcases List.mem_append.1 h with h | h
    · exact hpadded _ c (List.mem_of_mem_take h)
    rcases List.mem_cons.1 h with rfl | h
    · decide
    · exact hpadded _ c (List.mem_of_mem_drop h)

/-- Printable digits are printable in scientific notation. -/
lemma isPrintable_of_mem_scientific {digits : Text} (hdigits : ∀ c ∈ digits, IsPrintable c)
    {exponent : Int} {c : Char} (h : c ∈ scientific digits exponent) : IsPrintable c := by
  rcases List.mem_append.1 h with h | h
  · match digits, hdigits, h with
    | [d], hdigits, h => exact hdigits c h
    | d :: d' :: ds, hdigits, h =>
      rcases List.mem_cons.1 h with rfl | h
      · exact hdigits _ List.mem_cons_self
      rcases List.mem_cons.1 h with rfl | h
      · decide
      · exact hdigits c (List.mem_cons_of_mem d h)
  rcases List.mem_cons.1 h with rfl | h
  · decide
  · exact isPrintable_of_mem_exponentText h

/-- The text of a magnitude is printable. -/
lemma isPrintable_of_mem_magnitudeText {rank : Nat} {c : Char} (h : c ∈ magnitudeText rank) :
    IsPrintable c := by
  unfold magnitudeText at h
  split at h
  · have hzero : ∀ c ∈ ['0', '.', '0'], IsPrintable c := isPrintable_of_all (by decide)
    exact hzero c h
  obtain ⟨⟨value, unit⟩, hshortest⟩ : ∃ decimal, shortest rank = decimal := ⟨_, rfl⟩
  rw [hshortest] at h
  dsimp only at h
  have hdigits : ∀ c ∈ (trimZeros (Text.ofNat value) unit).1, IsPrintable c := by
    intro c hc
    have hmem := List.dropWhile_subset _ (List.mem_reverse.1 hc)
    exact Text.isPrintable_of_mem_ofNat (List.mem_reverse.1 hmem)
  split at h
  · exact isPrintable_of_mem_positional hdigits h
  · exact isPrintable_of_mem_scientific hdigits h

/-- The text of a number is printable when the words for those that are not finite are. -/
lemma isPrintable_of_mem_toText {words : Spelling} (hnan : ∀ c ∈ words.nan, IsPrintable c)
    (hinfinity : ∀ c ∈ words.infinity, IsPrintable c) {x : Binary64} {c : Char}
    (h : c ∈ x.toText words) : IsPrintable c := by
  have hsigned : ∀ {negative : Bool} {s : Text}, (∀ c ∈ s, IsPrintable c) →
      c ∈ (if negative then '-' :: s else s) → IsPrintable c := by
    intro negative s hs hc
    split at hc
    · rcases List.mem_cons.1 hc with rfl | hc
      · decide
      · exact hs c hc
    · exact hs c hc
  cases x with
  | nan => exact hnan c h
  | infinite negative => exact hsigned hinfinity h
  | finite negative rank => exact hsigned (fun _ => isPrintable_of_mem_magnitudeText) h

end Binary64

namespace Json

/-! ## Values -/

/-- An escape is printable. -/
lemma isPrintable_of_mem_unitEscape {u : Nat} {c : Char} (h : c ∈ unitEscape u) :
    IsPrintable c := by
  rcases List.mem_cons.1 h with rfl | h
  · decide
  rcases List.mem_cons.1 h with rfl | h
  · decide
  · exact Text.isPrintable_of_mem_ofHex h

/-- A character is printable as it stands between quotes. -/
lemma isPrintable_of_mem_escapeChar {c d : Char} (h : d ∈ escapeChar c) : IsPrintable d := by
  have hpair : ∀ {letter : Char}, IsPrintable letter → d ∈ ['\\', letter] → IsPrintable d := by
    intro letter hletter hd
    rcases List.mem_cons.1 hd with rfl | hd
    · decide
    · rw [List.mem_singleton.1 hd]
      exact hletter
  unfold escapeChar at h
  split at h
  · exact hpair (by decide) h
  split at h
  · exact hpair (by decide) h
  split at h
  · exact hpair (by decide) h
  split at h
  · exact hpair (by decide) h
  split at h
  · exact hpair (by decide) h
  split at h
  · exact hpair (by decide) h
  split at h
  · exact hpair (by decide) h
  split at h
  · rename_i hc
    rw [List.mem_singleton.1 h]
    exact hc
  split at h
  · exact isPrintable_of_mem_unitEscape h
  · rcases List.mem_append.1 h with h | h <;> exact isPrintable_of_mem_unitEscape h

/-- A text in quotes is printable. -/
lemma isPrintable_of_mem_quote {s : Text} {c : Char} (h : c ∈ quote s) : IsPrintable c := by
  rcases List.mem_cons.1 h with rfl | h
  · decide
  rcases List.mem_append.1 h with h | h
  · obtain ⟨d, -, hd⟩ := List.mem_flatMap.1 h
    exact isPrintable_of_mem_escapeChar hd
  · rw [List.mem_singleton.1 h]
    decide

/-- Whether a character can be met in a text of a style: it is printable, or sets items off. -/
def Style.Shows (style : Style) (c : Char) : Prop :=
  IsPrintable c ∨ ∃ level, c ∈ style.gap level

/-- Printable characters can be met in every style. -/
lemma Style.shows_of_all {s : Text} (h : (s.all fun c => decide (IsPrintable c)) = true)
    (style : Style) : ∀ c ∈ s, style.Shows c :=
  fun c hc => .inl (isPrintable_of_all h c hc)

/-- What stands between two items can be met. -/
lemma Style.shows_of_mem_separator {style : Style} {level : Nat} {c : Char}
    (h : c ∈ style.separator level) : style.Shows c := by
  cases style with
  | inline => exact shows_of_all (s := [',', ' ']) (by decide) _ c h
  | indented width =>
    rcases List.mem_cons.1 h with rfl | h
    · exact .inl (by decide)
    · exact .inr ⟨level, h⟩
  | marked unit =>
    rcases List.mem_cons.1 h with rfl | h
    · exact .inl (by decide)
    · exact .inr ⟨level, h⟩

section Render

variable {style : Style}

/-- Items whose characters can be met one by one are so together. -/
lemma shows_of_mem_renderItems {level : Nat} {vs : List Json}
    (hitem : ∀ v ∈ vs, ∀ c ∈ renderAt style (level + 1) v, style.Shows c) {c : Char}
    (h : c ∈ renderItems style level vs) : style.Shows c := by
  induction vs with
  | nil => exact absurd h List.not_mem_nil
  | cons v vs ih =>
    rw [renderItems, List.append_assoc] at h
    rcases List.mem_append.1 h with h | h
    · exact Style.shows_of_mem_separator h
    rcases List.mem_append.1 h with h | h
    · exact hitem v List.mem_cons_self c h
    · exact ih (fun w hw => hitem w (List.mem_cons_of_mem v hw)) h

/-- Members whose values have characters that can be met one by one are so together. -/
lemma shows_of_mem_renderMembers {level : Nat} {ms : List (Text × Json)}
    (hitem : ∀ m ∈ ms, ∀ c ∈ renderAt style (level + 1) m.2, style.Shows c) {c : Char}
    (h : c ∈ renderMembers style level ms) : style.Shows c := by
  induction ms with
  | nil => exact absurd h List.not_mem_nil
  | cons m ms ih =>
    obtain ⟨key, v⟩ := m
    simp only [renderMembers, List.append_assoc, List.mem_append, List.mem_cons,
      List.not_mem_nil, or_false] at h
    rcases h with h | h | (rfl | rfl) | h | h
    · exact Style.shows_of_mem_separator h
    · exact .inl (isPrintable_of_mem_quote h)
    · exact .inl (by decide)
    · exact .inl (by decide)
    · exact hitem _ List.mem_cons_self c h
    · exact ih (fun m hm => hitem m (List.mem_cons_of_mem _ hm)) h

/-- The text of a value is printable but for what sets items off, whatever texts are in it. -/
lemma shows_of_mem_renderAt (v : Json) :
    ∀ level, ∀ c ∈ renderAt style level v, style.Shows c := by
  induction v using Json.induction with
  | null =>
    have hword := Style.shows_of_all (s := "null".toList) (by decide) style
    exact fun _ c hc => hword c (by rwa [renderAt] at hc)
  | bool b =>
    have hfalse := Style.shows_of_all (s := "false".toList) (by decide) style
    have htrue := Style.shows_of_all (s := "true".toList) (by decide) style
    intro _ c hc
    cases b
    · exact hfalse c (by rwa [renderAt] at hc)
    · exact htrue c (by rwa [renderAt] at hc)
  | int n => exact fun _ c hc => .inl (Text.isPrintable_of_mem_ofInt (by rwa [renderAt] at hc))
  | float x =>
    have hnan : ∀ c ∈ numberWords.nan, IsPrintable c := isPrintable_of_all (by decide)
    have hinfinity : ∀ c ∈ numberWords.infinity, IsPrintable c := isPrintable_of_all (by decide)
    exact fun _ c hc =>
      .inl (Binary64.isPrintable_of_mem_toText hnan hinfinity (by rwa [renderAt] at hc))
  | text s => exact fun _ c hc => .inl (isPrintable_of_mem_quote (by rwa [renderAt] at hc))
  | list items ih =>
    have hbrackets := Style.shows_of_all (s := ['[', ']']) (by decide) style
    intro level c hc
    cases items with
    | nil => exact hbrackets c (by rwa [renderAt] at hc)
    | cons v vs =>
      simp only [renderAt, List.append_assoc, List.mem_cons, List.mem_append, List.not_mem_nil,
        or_false] at hc
      rcases hc with rfl | hc | hc | hc | hc | rfl
      · exact .inl (by decide)
      · exact .inr ⟨level, hc⟩
      · exact ih v List.mem_cons_self _ c hc
      · exact shows_of_mem_renderItems
          (fun w hw => ih w (List.mem_cons_of_mem v hw) (level + 1)) hc
      · exact .inr ⟨level - 1, hc⟩
      · exact .inl (by decide)
  | object members ih =>
    have hbraces := Style.shows_of_all (s := ['{', '}']) (by decide) style
    intro level c hc
    cases members with
    | nil => exact hbraces c (by rwa [renderAt] at hc)
    | cons m ms =>
      obtain ⟨key, v⟩ := m
      simp only [renderAt, List.append_assoc, List.mem_cons, List.mem_append, List.not_mem_nil,
        or_false] at hc
      rcases hc with rfl | hc | hc | (rfl | rfl) | hc | hc | hc | rfl
      · exact .inl (by decide)
      · exact .inr ⟨level, hc⟩
      · exact .inl (isPrintable_of_mem_quote hc)
      · exact .inl (by decide)
      · exact .inl (by decide)
      · exact ih _ List.mem_cons_self _ c hc
      · exact shows_of_mem_renderMembers
          (fun m hm => ih m (List.mem_cons_of_mem _ hm) (level + 1)) hc
      · exact .inr ⟨level - 1, hc⟩
      · exact .inl (by decide)

end Render

/-- A value on one line is printable, whatever texts are in it. -/
theorem isPrintable_of_mem_render {v : Json} {c : Char} (h : c ∈ render .inline v) :
    IsPrintable c :=
  (shows_of_mem_renderAt v 1 c h).resolve_right fun ⟨_, hc⟩ => absurd hc List.not_mem_nil

/-- An indented value has no carriage return. -/
lemma return_not_mem_render_indented (width : Nat) (v : Json) :
    '\r' ∉ render (.indented width) v := by
  intro h
  rcases shows_of_mem_renderAt v 1 _ h with h | ⟨level, h⟩
  · exact absurd h (by decide)
  · rcases List.mem_cons.1 h with h | h
    · exact absurd h (by decide)
    · exact absurd (List.eq_of_mem_replicate h) (by decide)

end Json

/-- Line ends are not unified where there is no carriage return. -/
lemma Text.universalNewlines_eq_self {s : Text} (h : '\r' ∉ s) : s.universalNewlines = s := by
  induction s with
  | nil => rfl
  | cons c s ih =>
    rw [List.mem_cons, not_or] at h
    rw [universalNewlines, ih h.2, if_neg (Ne.symm h.1)]
    exact fun _ hc => absurd hc.symm h.1

end EventPipeline
