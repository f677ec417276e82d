import EventPipeline.Document.Loading
import EventPipeline.Proofs.Encoding.Detection
import EventPipeline.Proofs.Json.Parsed

/-!
# Documents from bytes

A document is loaded from the bytes of its text as from the text itself, in every encoding that can
be detected and with or without its mark (`ofBytes_encode`). What is needed for this is that the
encoding shows. The text of an object begins with a gap or a brace, and the character behind is a
gap, a brace or a quote: both are in the first half of the code table, however short the text is
and whatever stands behind them.
-/

namespace EventPipeline

namespace Json

/-! ## How the text of an object begins -/

/-- A character of a gap is plain. -/
lemma isPlain_of_isGap {c : Char} (h : isGap c = true) : IsPlain c := by
  simp only [isGap, Bool.or_eq_true, beq_iff_eq] at h
  rcases h with ((rfl | rfl) | rfl) | rfl <;> exact ⟨by decide, by decide⟩

/-- A text begins with a gap, or with what comes behind the gap in front. -/
lemma skipGap_eq_cons {s t : Text} {c : Char} (h : skipGap s = c :: t) :
    (∃ gap rest, s = gap :: rest ∧ isGap gap = true ∧ skipGap rest = c :: t) ∨ s = c :: t := by
  cases s with
  | nil => contradiction
  | cons first rest =>
    cases hfirst : isGap first with
    | true =>
      rw [skipGap, List.dropWhile_cons_of_pos hfirst] at h
      exact .inl ⟨first, rest, rfl, hfirst, h⟩
    | false =>
      rw [skipGap, List.dropWhile_cons_of_neg (by simp [hfirst])] at h
      exact .inr h

/-- A text in which something plain comes behind the gap in front begins with something plain. -/
lemma exists_isPlain_of_skipGap {s t : Text} {c : Char} (h : skipGap s = c :: t) (hc : IsPlain c) :
    ∃ first rest, s = first :: rest ∧ IsPlain first := by
  rcases skipGap_eq_cons h with ⟨gap, rest, rfl, hgap, -⟩ | rfl
  · exact ⟨gap, rest, rfl, isPlain_of_isGap hgap⟩
  · exact ⟨c, t, rfl, hc⟩

/-- Members begin with the quote of a name. -/
lemma exists_quote_of_members {item : Text → Reading Json} {limit : Nat} {s r : Text}
    {ms : List (Text × Json)} (h : members item limit s = .ok (ms, r)) : ∃ t, s = '"' :: t := by
  unfold members at h
  split at h
  · contradiction
  · split at h
    · exact ⟨_, rfl⟩
    · contradiction

/-- An object that was read begins with a brace, and behind the gap comes a brace or a quote. -/
lemma exists_brace_of_value {depth : Nat} {s r : Text} {ms : List (Text × Json)}
    (h : value depth s = .ok (.object ms, r)) :
    ∃ body c t, s = '{' :: body ∧ skipGap body = c :: t ∧ IsPlain c := by
  unfold value at h
  split at h
  · contradiction
  split at h
  · obtain ⟨p, -, hp⟩ := map_eq_ok_iff.1 h
    cases hp
  · split at h
    · cases h
    · obtain ⟨p, -, hp⟩ := map_eq_ok_iff.1 h
      cases hp
  · rename_i body
    split at h
    · rename_i t hbrace
      exact ⟨body, '}', t, rfl, hbrace, by decide, by decide⟩
    · obtain ⟨p, hmembers, -⟩ := map_eq_ok_iff.1 h
      obtain ⟨t, ht⟩ := exists_quote_of_members hmembers
      exact ⟨body, '"', t, rfl, ht, by decide, by decide⟩
  · have hatom := isAtom_of_scalar h
    contradiction

/-- The text of an object begins with two plain characters. -/
lemma exists_isPlain_of_ofUnmarked {s : Text} {ms : List (Text × Json)}
    (h : ofUnmarked s = .ok (.object ms)) :
    ∃ a b rest, s = a :: b :: rest ∧ IsPlain a ∧ IsPlain b := by
  have hbrace : IsPlain '{' := ⟨by decide, by decide⟩
  obtain ⟨body, c, t, hskip, hbody, hc⟩ :
      ∃ body c t, skipGap s = '{' :: body ∧ skipGap body = c :: t ∧ IsPlain c := by
    rw [ofUnmarked, mapError_eq_ok_iff, whole] at h
    split at h
    · contradiction
    · rename_i v r hvalue
      split at h
      · rw [Except.ok.inj h] at hvalue
        exact exists_brace_of_value hvalue
      · contradiction
  rcases skipGap_eq_cons hskip with ⟨gap, rest, rfl, hgap, hrest⟩ | rfl
  · obtain ⟨b, rest, rfl, hb⟩ := exists_isPlain_of_skipGap hrest hbrace
    exact ⟨gap, b, rest, rfl, isPlain_of_isGap hgap, hb⟩
  · obtain ⟨b, rest, rfl, hb⟩ := exists_isPlain_of_skipGap hbody hc
    exact ⟨'{', b, rest, rfl, hbrace, hb⟩

/-- The bytes of the text of an object, in any encoding, with and without a mark, are read as the
text is. -/
lemma ofBytes_encode_of_ofUnmarked {s : Text} {ms : List (Text × Json)}
    (h : ofUnmarked s = .ok (.object ms)) (e : Encoding) :
    ofBytes (e.encode s) = .ok (.object ms) ∧ ofBytes (e.mark ++ e.encode s) = .ok (.object ms) := by
  obtain ⟨a, b, rest, rfl, ha, hb⟩ := exists_isPlain_of_ofUnmarked h
  obtain ⟨hplain, hmarked⟩ := e.decodeDetected_encode ha hb rest
  constructor
  · rw [ofBytes, hplain]
    exact h
  · rw [ofBytes, hmarked]
    exact h

end Json

namespace Document

/-- A text that is loaded is the text of an object and does not begin with a mark. -/
lemma exists_object_of_ofText {s : Text} {d : Document} (h : ofText s = .ok d) :
    ∃ ms, Json.ofUnmarked s = .ok (.object ms) ∧ ofJson (.object ms) = .ok d := by
  unfold ofText at h
  split at h
  · rename_i v hv
    unfold Json.ofText at hv
    split at hv
    · contradiction
    · cases v with
      | object ms => exact ⟨ms, hv, h⟩
      | _ => contradiction
  · contradiction

/-- A document is loaded from the bytes of its text, in any encoding, with and without a mark, as
from the text itself. -/
theorem ofBytes_encode {s : Text} {d : Document} (h : ofText s = .ok d) (e : Encoding) :
    ofBytes (e.encode s) = .ok d ∧ ofBytes (e.mark ++ e.encode s) = .ok d := by
  obtain ⟨ms, hread, hload⟩ := exists_object_of_ofText h
  obtain ⟨hplain, hmarked⟩ := Json.ofBytes_encode_of_ofUnmarked hread e
  constructor
  · rw [ofBytes, hplain]
    exact hload
  · rw [ofBytes, hmarked]
    exact hload

/-- An object whose third character is beyond the first plane, in the units of UTF-16 behind a
mark. -/
theorem ofBytes_encode_beyondFirstPlane :
    ofText ['{', '"', '𝄞', '"', ':', '0', '}'] = .ok (empty Config.empty) ∧
      ofBytes [0xFF, 0xFE, 0x7B, 0, 0x22, 0, 0x34, 0xD8, 0x1E, 0xDD, 0x22, 0, 0x3A, 0, 0x30, 0,
        0x7D, 0] = .ok (empty Config.empty) := by
  have h : ofText ['{', '"', '𝄞', '"', ':', '0', '}'] = .ok (empty Config.empty) := rfl
  have hbytes : (Encoding.utf16 .little).mark ++ (Encoding.utf16 .little).encode
      ['{', '"', '𝄞', '"', ':', '0', '}'] = [0xFF, 0xFE, 0x7B, 0, 0x22, 0, 0x34, 0xD8,
        0x1E, 0xDD, 0x22, 0, 0x3A, 0, 0x30, 0, 0x7D, 0] := by decide
  exact ⟨h, hbytes ▸ (ofBytes_encode h (.utf16 .little)).2⟩

end Document

end EventPipeline
