import Phrasebook.IndexPage
import Phrasebook.Proofs.Pieces

/-!
# Escaped texts and values

A reader of escaped texts puts a character for each of the four entities and takes no other `&`
(`unescape?`); a value goes from a quote to the next quote of the kind (`value?`). Of the three ways
to quote a value none is taken for another, as the quote that begins the value does not stand inside
(`value?_quotedValue`).
-/

namespace Phrasebook.Html

open IndexPage (escape escapeChar escapeQuote quotedValue)

/-- The text that an escaped text stands for. Each `&` begins an entity. -/
def unescape? : Text → Option Text
  | [] => some []
  | '&' :: 'a' :: 'm' :: 'p' :: ';' :: t => (unescape? t).map ('&' :: ·)
  | '&' :: 'l' :: 't' :: ';' :: t => (unescape? t).map ('<' :: ·)
  | '&' :: 'g' :: 't' :: ';' :: t => (unescape? t).map ('>' :: ·)
  | '&' :: 'q' :: 'u' :: 'o' :: 't' :: ';' :: t => (unescape? t).map ('"' :: ·)
  | c :: t => if c = '&' then none else (unescape? t).map (c :: ·)

/-- What a value that begins a text stands for, and what is behind its last quote. -/
def value? : Text → Option (Text × Text)
  | [] => none
  | q :: t =>
    if q = '"' || q = '\'' then
      match t.dropWhile (· ≠ q) with
      | [] => none
      | _ :: rest => (unescape? (t.takeWhile (· ≠ q))).map (·, rest)
    else none

section Unescape

theorem unescape?_cons {c : Char} (h : c ≠ '&') (t : Text) :
    unescape? (c :: t) = (unescape? t).map (c :: ·) := by
  rw [unescape?.eq_def]
  split <;> simp_all

theorem unescape?_escapeChar (c : Char) (t : Text) :
    unescape? (escapeChar c ++ t) = (unescape? t).map (c :: ·) := by
  unfold escapeChar
  split_ifs with h₁ h₂ h₃
  · subst h₁
    simp [unescape?]
  · subst h₂
    simp [unescape?]
  · subst h₃
    simp [unescape?]
  · exact unescape?_cons h₁ t

theorem unescape?_escapeQuote (c : Char) (t : Text) :
    unescape? ((escapeChar c).flatMap escapeQuote ++ t) = (unescape? t).map (c :: ·) := by
  by_cases h : c = '"'
  · subst h
    simp [escapeChar, escapeQuote, unescape?]
  · have hquote : (escapeChar c).flatMap escapeQuote = escapeChar c := by
      unfold escapeChar
      split_ifs <;> simp [escapeQuote, h]
    rw [hquote, unescape?_escapeChar]

/-- A text whose characters are escaped one by one, each so that it is read back. -/
theorem unescape?_flatMap {f : Char → Text}
    (hf : ∀ c t, unescape? (f c ++ t) = (unescape? t).map (c :: ·)) :
    ∀ t : Text, unescape? (t.flatMap f) = some t
  | [] => by simp [unescape?]
  | c :: t => by rw [List.flatMap_cons, hf, unescape?_flatMap hf t, Option.map_some]

theorem unescape?_escape (t : Text) : unescape? (escape t) = some t :=
  unescape?_flatMap unescape?_escapeChar t

theorem flatMap_escapeQuote (t : Text) :
    (escape t).flatMap escapeQuote = t.flatMap fun c => (escapeChar c).flatMap escapeQuote := by
  rw [escape, List.flatMap_assoc]

theorem notMem_escapeChar {a : Char} (ha : a = '<' ∨ a = '>') (c : Char) : a ∉ escapeChar c := by
  unfold escapeChar
  split_ifs with h₁ h₂ h₃
  · rcases ha with rfl | rfl <;> decide
  · rcases ha with rfl | rfl <;> decide
  · rcases ha with rfl | rfl <;> decide
  · rw [List.mem_singleton]
    rcases ha with rfl | rfl
    · exact Ne.symm h₂
    · exact Ne.symm h₃

/-- No markup stands in an escaped text. -/
theorem notMem_escape {a : Char} (ha : a = '<' ∨ a = '>') (t : Text) : a ∉ escape t := by
  rw [escape, List.mem_flatMap]
  rintro ⟨c, -, hc⟩
  exact notMem_escapeChar ha c hc

theorem notMem_flatMap_escapeQuote {a : Char} (ha : a = '"' ∨ a = '<' ∨ a = '>') (t : Text) :
    a ∉ (escape t).flatMap escapeQuote := by
  rw [List.mem_flatMap]
  rintro ⟨c, hc, hquote⟩
  unfold escapeQuote at hquote
  split_ifs at hquote with h
  · rcases ha with rfl | rfl | rfl <;> revert hquote <;> decide
  · rw [List.mem_singleton] at hquote
    subst hquote
    rcases ha with rfl | ha
    · exact h rfl
    · exact notMem_escape ha t hc

end Unescape

/-! ## Values -/

/-- A value as it is written: between two quotes of a kind that does not stand inside, without
markup, and read back as the text that it stands for. -/
structure IsValue (t : Text) (q : Char) (v : Text) : Prop where
  quote : q = '"' ∨ q = '\''
  notMem : q ∉ v
  plain : '<' ∉ v ∧ '>' ∉ v
  unescape : unescape? v = some t

theorem exists_isValue (t : Text) : ∃ q v, quotedValue t = q :: v ++ [q] ∧ IsValue t q v := by
  have hplain : '<' ∉ escape t ∧ '>' ∉ escape t :=
    ⟨notMem_escape (.inl rfl) t, notMem_escape (.inr rfl) t⟩
  by_cases hdouble : '"' ∈ escape t
  · by_cases hsingle : '\'' ∈ escape t
    · refine ⟨'"', (escape t).flatMap escapeQuote, by simp [quotedValue, hdouble, hsingle],
        .inl rfl, notMem_flatMap_escapeQuote (.inl rfl) t, ?_, ?_⟩
      · exact ⟨notMem_flatMap_escapeQuote (.inr (.inl rfl)) t,
          notMem_flatMap_escapeQuote (.inr (.inr rfl)) t⟩
      · rw [flatMap_escapeQuote]
        exact unescape?_flatMap unescape?_escapeQuote t
    · exact ⟨'\'', escape t, by simp [quotedValue, hdouble, hsingle], .inr rfl, hsingle, hplain,
        unescape?_escape t⟩
  · exact ⟨'"', escape t, by simp [quotedValue, hdouble], .inl rfl, hdouble, hplain,
      unescape?_escape t⟩

/-- No markup stands in a value. -/
theorem notMem_quotedValue {a : Char} (ha : a = '<' ∨ a = '>') (t : Text) :
    a ∉ quotedValue t := by
  obtain ⟨q, v, hvalue, hv⟩ := exists_isValue t
  rw [hvalue]
  rcases ha with rfl | rfl <;> rcases hv.quote with rfl | rfl <;> simp [hv.plain]

/-- A value is read up to the quote at its end, whatever is behind it. -/
theorem value?_quotedValue (t rest : Text) : value? (quotedValue t ++ rest) = some (t, rest) := by
  obtain ⟨q, v, hvalue, hv⟩ := exists_isValue t
  have hsplit : quotedValue t ++ rest = q :: (v ++ q :: rest) := by simp [hvalue]
  rw [hsplit, value?, dropWhile_append_cons hv.notMem, takeWhile_append_cons hv.notMem]
  simp [hv.quote, hv.unescape]

/-- The three ways to quote a value. Only the last one escapes a quote, and the first one keeps what
looks like an escaped quote apart from it. -/
example : ["&quot;", "a\"", "'\""].map (quotedValue ·.toList)
    = ["\"&amp;quot;\"", "'a\"'", "\"'&quot;\""].map String.toList := by
  decide

theorem length_lt_of_value? {t v rest : Text} (h : value? t = some (v, rest)) :
    rest.length < t.length := by
  rcases t with _ | ⟨q, t⟩
  · cases h
  · rw [value?] at h
    split_ifs at h
    have hle := (List.dropWhile_suffix (l := t) (· ≠ q)).length_le
    split at h
    · cases h
    · rename_i c behind hbehind
      obtain ⟨u, -, hrest⟩ := Option.map_eq_some_iff.1 h
      rw [Prod.mk.injEq] at hrest
      rw [hbehind, List.length_cons, hrest.2] at hle
      rw [List.length_cons]
      omega

end Phrasebook.Html
