import Phrasebook.Proofs.Runs
import Phrasebook.Proofs.Unescaping

/-!
# Reading markup that was written

A tag is read as a name with attributes, each set apart by a space and with a value (`element?`),
and a page as its tags, each with the text behind it (`marks`). Whatever the values and the texts
are, a page that is written from tags and texts is read as them (`marks_flatMap_toText`), and it has
one `<` for each of the tags (`count_flatMap_toText`).
-/

namespace Phrasebook.Html

open IndexPage (escape quotedValue)

def isAttributeChar (c : Char) : Bool :=
  isNameChar c || c = '-'

/-- The attributes in a tag behind its name, up to its end. -/
def attributes? : Text → Option (List (Text × Text))
  | ['>'] => some []
  | ['/', '>'] => some []
  | ' ' :: t =>
    match _ : t.dropWhile isAttributeChar with
    | '=' :: rest => match _ : value? rest with
      | none => none
      | some (value, rest) =>
        (attributes? rest).map ((t.takeWhile isAttributeChar, value) :: ·)
    | _ => none
  | _ => none
termination_by t => t.length
decreasing_by
  rename_i hrest h
  have h₁ := length_lt_of_value? h
  have h₂ := (List.dropWhile_suffix (l := t) isAttributeChar).length_le
  rw [hrest] at h₂
  simp only [List.length_cons] at h₂ ⊢
  omega

theorem attributes?_cons {name : Text} (hname : name.all isAttributeChar = true)
    (t rest : Text) : attributes? (' ' :: name ++ '=' :: quotedValue t ++ rest)
      = (attributes? rest).map ((name, t) :: ·) := by
  have hsplit : ' ' :: name ++ '=' :: quotedValue t ++ rest
      = ' ' :: (name ++ '=' :: (quotedValue t ++ rest)) := by simp
  have hspan : (name ++ '=' :: (quotedValue t ++ rest)).dropWhile isAttributeChar
      = '=' :: (quotedValue t ++ rest) := by
    rw [List.dropWhile_append_of_pos (List.all_eq_true.1 hname)]
    rfl
  have htake : (name ++ '=' :: (quotedValue t ++ rest)).takeWhile isAttributeChar = name := by
    rw [List.takeWhile_append_of_pos (List.all_eq_true.1 hname)]
    simp [isAttributeChar, isNameChar]
  rw [hsplit, attributes?, hspan]
  simp only [htake]
  split
  · rename_i h
    rw [value?_quotedValue] at h
    cases h
  · rename_i value behind h
    rw [value?_quotedValue, Option.some.injEq, Prod.mk.injEq] at h
    rw [h.1, h.2]

/-- A tag that opens or closes an element, with its attributes. -/
structure Element where
  name : TagName
  attributes : List (Text × Text)
  deriving DecidableEq

/-- The element that a tag opens or closes. Its name stands at once behind the `<` or the slash. -/
def element? (tag : Text) : Option Element := do
  let name ← TagName.ofTag? tag.wide
  let attributes ← attributes? (tag.drop (name.name.length + if name.closing then 2 else 1))
  return ⟨name, attributes⟩

/-- A name of an element in lower case. -/
def IsName (name : Text) : Prop :=
  name ≠ [] ∧ name.all (fun c => isNameChar c && lowerChar c == c) = true

instance (name : Text) : Decidable (IsName name) :=
  inferInstanceAs (Decidable (_ ∧ _))

theorem IsName.char {name : Text} (h : IsName name) {c : Char} (hc : c ∈ name) :
    isNameChar c = true ∧ lowerChar c = c := by
  simpa using List.all_eq_true.1 h.2 c hc

theorem isBlank_of_isNameChar {c : Char} (h : isNameChar c = true) : Text.isBlank c = false := by
  have hrange : 0x30 ≤ c.toNat ∧ c.toNat ≤ 0x7a := by
    simp only [isNameChar, Char.isDigit, Bool.or_eq_true, Bool.and_eq_true, decide_eq_true_eq,
      Char.le_def, UInt32.le_iff_toNat_le, ge_iff_le] at h
    have hval : c.toNat = c.val.toNat := rfl
    have h0 : ('0' : Char).val.toNat = 0x30 := rfl
    have h9 : ('9' : Char).val.toNat = 0x39 := rfl
    have ha : ('a' : Char).val.toNat = 0x61 := rfl
    have hz : ('z' : Char).val.toNat = 0x7a := rfl
    have hA : ('A' : Char).val.toNat = 0x41 := rfl
    have hZ : ('Z' : Char).val.toNat = 0x5a := rfl
    omega
  simp only [Text.isBlank, Text.inRanges, Text.blankRanges, List.any_cons, List.any_nil,
    Bool.or_false, Bool.or_eq_false_iff, Bool.and_eq_false_imp, decide_eq_true_eq,
    decide_eq_false_iff_not, not_le]
  omega

section Names

variable {name rest : Text} {attributes : List (Text × Text)}

theorem exists_cons_of_attributes? (h : attributes? rest = some attributes) :
    ∃ c behind, rest = c :: behind ∧ isNameChar c = false := by
  rw [attributes?.eq_def] at h
  split at h
  · exact ⟨'>', [], rfl, by decide⟩
  · exact ⟨'/', ['>'], rfl, by decide⟩
  · exact ⟨' ', _, rfl, by decide⟩
  · cases h

theorem takeWhile_isNameChar (hname : IsName name) (hrest : attributes? rest = some attributes) :
    (name ++ rest).takeWhile isNameChar = name := by
  obtain ⟨c, behind, rfl, hc⟩ := exists_cons_of_attributes? hrest
  rw [List.takeWhile_append_of_pos fun d hd => (hname.char hd).1]
  simp [hc]

theorem lower_of_isName (hname : IsName name) : lower name = name := by
  have hmap : name.map lowerChar = name.map id :=
    List.map_congr_left fun c hc => (hname.char hc).2
  rw [lower, hmap, List.map_id]

/-- What begins with a name begins with no blank and with no slash. -/
theorem head_of_isName (hname : IsName name) (rest : Text) :
    (Text.wide (name ++ rest)).dropWhile CodePoint.isBlank = Text.wide (name ++ rest)
      ∧ (Text.wide (name ++ rest)).head? ≠ some (.char '/') := by
  rcases name with _ | ⟨c, name⟩
  · exact absurd rfl hname.1
  · have hc := (hname.char List.mem_cons_self).1
    refine ⟨by simp [CodePoint.isBlank, CodePoint.is, isBlank_of_isNameChar hc], ?_⟩
    intro h
    obtain rfl : c = '/' := by simpa using h
    revert hc
    decide

/-- A name is what is read of it up to a character that is in no name. -/
theorem name_of_isName (hname : IsName name) (hrest : attributes? rest = some attributes) :
    WideText.chars ((Text.wide (name ++ rest)).takeWhile (·.is isNameChar)) = name := by
  rw [Text.takeWhile_wide, WideText.chars_wide, takeWhile_isNameChar hname hrest]

theorem element?_opening (hname : IsName name) (hrest : attributes? rest = some attributes) :
    element? ('<' :: (name ++ rest)) = some ⟨⟨false, name⟩, attributes⟩ := by
  obtain ⟨hblank, hslash⟩ := head_of_isName hname rest
  have htag : TagName.ofTag? (Text.wide ('<' :: (name ++ rest))) = some ⟨false, name⟩ := by
    simp only [Text.wide_cons, TagName.ofTag?, hblank, hslash, decide_false, if_false,
      name_of_isName hname hrest, lower_of_isName hname]
    simp [hname.1]
  rw [element?, htag]
  simp [hrest]

theorem element?_closing (hname : IsName name) :
    element? ('<' :: '/' :: (name ++ ['>'])) = some ⟨⟨true, name⟩, []⟩ := by
  have hrest : attributes? ['>'] = some [] := by rw [attributes?]
  obtain ⟨hblank, -⟩ := head_of_isName hname ['>']
  have hslash : CodePoint.isBlank (.char '/') = false := by decide
  have htag : TagName.ofTag? (Text.wide ('<' :: '/' :: (name ++ ['>']))) = some ⟨true, name⟩ := by
    simp [TagName.ofTag?, -Text.wide_append, hslash, hblank, name_of_isName hname hrest,
      lower_of_isName hname, hname.1]
  have hdrop : ('<' :: '/' :: (name ++ ['>'])).drop (name.length + 2) = ['>'] := by simp
  rw [element?, htag]
  simp [hdrop, hrest]

end Names

/-! ## Marks -/

/-- A tag and the text behind it, as a reader sees them. -/
structure Mark where
  element : Option Element
  text : Option Text
  deriving DecidableEq

/-- The value of an attribute of a tag that opens an element of a name. -/
def Mark.value? (m : Mark) (name key : Text) : Option Text :=
  m.element.bind fun e => if e.name = ⟨false, name⟩ then e.attributes.lookup key else none

/-- The tags of a page, each with the text behind it. -/
def marks (page : Text) : List Mark :=
  let p := Pieces.ofText page.wide
  List.zipWith (fun tag run => ⟨element? tag.chars, unescape? run.chars⟩) p.tags p.runs.tail

/-! ## Writing -/

inductive Tag
  | declaration (text : Text)
  | opening (name : Text) (attributes : List (Text × Text)) (closed : Bool)
  | closing (name : Text)

namespace Tag

def attributeText (a : Text × Text) : Text :=
  ' ' :: a.1 ++ '=' :: quotedValue a.2

/-- The text between the `<` and the `>`. -/
def inner : Tag → Text
  | declaration text => '!' :: text
  | opening name attributes closed =>
    name ++ (attributes.flatMap attributeText ++ if closed then ['/'] else [])
  | closing name => '/' :: name

def toText (t : Tag) : Text :=
  '<' :: t.inner ++ ['>']

def element : Tag → Option Element
  | declaration _ => none
  | opening name attributes _ => some ⟨⟨false, name⟩, attributes⟩
  | closing name => some ⟨⟨true, name⟩, []⟩

/-- The names in the tag can be written. Nothing is asked of the values. -/
def Named : Tag → Prop
  | declaration text => '<' ∉ text ∧ '>' ∉ text
  | opening name attributes _ =>
    IsName name ∧ ∀ key ∈ attributes.map Prod.fst, key.all isAttributeChar = true
  | closing name => IsName name

instance : ∀ t : Tag, Decidable t.Named
  | declaration _ => inferInstanceAs (Decidable (_ ∧ _))
  | opening .. => inferInstanceAs (Decidable (_ ∧ _))
  | closing name => inferInstanceAs (Decidable (IsName name))

end Tag

/-- A tag to be written and the text behind it. -/
structure Written where
  tag : Tag
  text : Text

namespace Written

def toText (w : Written) : Text :=
  w.tag.toText ++ escape w.text

def mark (w : Written) : Mark :=
  ⟨w.tag.element, some w.text⟩

end Written

namespace Tag

theorem attributes?_flatMap (closed : Bool) : ∀ {attributes : List (Text × Text)},
    (∀ key ∈ attributes.map Prod.fst, key.all isAttributeChar = true) →
      attributes? (attributes.flatMap attributeText ++ (if closed then ['/'] else []) ++ ['>'])
        = some attributes
  | [], _ => by cases closed <;> simp [attributes?]
  | a :: attributes, h => by
    obtain ⟨ha, hrest⟩ := List.forall_mem_cons.1 h
    rw [List.flatMap_cons, attributeText, List.append_assoc, List.append_assoc,
      attributes?_cons ha, ← List.append_assoc, attributes?_flatMap closed hrest, Option.map_some]

theorem element?_toText {t : Tag} (h : t.Named) : element? t.toText = t.element := by
  cases t with
  | declaration text =>
    have htag : TagName.ofTag? (Text.wide ('<' :: '!' :: (text ++ ['>']))) = none := by
      have hblank : CodePoint.isBlank (.char '!') = false := by decide
      have hchar : CodePoint.is isNameChar (.char '!') = false := by decide
      simp [TagName.ofTag?, hblank, hchar, WideText.chars]
    simp [element?, toText, inner, element, -Text.wide_cons, htag]
  | opening name attributes closed =>
    obtain ⟨hname, hattributes⟩ := h
    have hread := attributes?_flatMap closed hattributes
    simpa [toText, inner, element] using element?_opening hname hread
  | closing name => simpa [toText, inner, element] using element?_closing h

/-- No markup stands between the `<` and the `>`. -/
theorem notMem_inner {a : Char} (ha : a = '<' ∨ a = '>') {t : Tag} (h : t.Named) :
    a ∉ t.inner := by
  have hchar : isAttributeChar a = false := by
    rcases ha with rfl | rfl <;> decide
  have hslash : a ≠ '/' ∧ a ≠ ' ' ∧ a ≠ '=' := by
    rcases ha with rfl | rfl <;> decide
  have hnames {name : Text} (hname : IsName name) : a ∉ name := by
    intro hmem
    simp [isAttributeChar, (hname.char hmem).1] at hchar
  cases t with
  | declaration text => rcases ha with rfl | rfl <;> simp [inner, h.1, h.2]
  | opening name attributes closed =>
    obtain ⟨hname, hattributes⟩ := h
    have hvalues : a ∉ attributes.flatMap attributeText := by
      rw [List.mem_flatMap]
      rintro ⟨b, hb, hmem⟩
      have hkey : a ∉ b.1 := by
        intro h
        rw [List.all_eq_true.1 (hattributes b.1 (List.mem_map_of_mem hb)) a h] at hchar
        cases hchar
      simp [attributeText, hslash, hkey, notMem_quotedValue ha] at hmem
    cases closed <;> simp [inner, hnames hname, hvalues, hslash]
  | closing name => simp [inner, hslash, hnames h]

theorem isTag_toText {t : Tag} (h : t.Named) : IsTag t.toText.wide :=
  ⟨Text.wide t.inner, by simp [toText], by simpa using notMem_inner (.inr rfl) h⟩

end Tag

namespace Written

/-- Tags and the texts behind them are found again in the page that they make up. -/
theorem ofText_flatMap_toText : ∀ (ws : List Written) {run : Text}, '<' ∉ run →
    (∀ w ∈ ws, w.tag.Named) → let p := Pieces.ofText (Text.wide (run ++ ws.flatMap toText))
      p.tags = ws.map (·.tag.toText.wide) ∧ p.runs = run.wide :: ws.map (Text.wide <| escape ·.text)
  | [], run, hrun, _ => by
    have hpage : Pieces.ofText (run.wide ++ []) = ⟨[], run.wide, []⟩ :=
      Pieces.ofText_run_tail (by simpa using hrun) (.inl rfl)
    rw [List.flatMap_nil, Text.wide_append, Text.wide_nil, hpage]
    exact ⟨rfl, rfl⟩
  | w :: ws, run, hrun, hnamed => by
    obtain ⟨hw, hrest⟩ := List.forall_mem_cons.1 hnamed
    obtain ⟨htags, hruns⟩ := ofText_flatMap_toText ws (notMem_escape (.inl rfl) w.text) hrest
    rw [List.flatMap_cons, toText, List.append_assoc, Text.wide_append, Text.wide_append,
      Pieces.ofText_run_tag (by simpa using hrun) (Tag.isTag_toText hw)]
    exact ⟨congrArg (_ :: ·) htags, congrArg (run.wide :: ·) hruns⟩

theorem marks_flatMap_toText {ws : List Written} (h : ∀ w ∈ ws, w.tag.Named) :
    marks (ws.flatMap toText) = ws.map mark := by
  obtain ⟨htags, hruns⟩ := ofText_flatMap_toText ws List.not_mem_nil h
  rw [List.nil_append] at htags hruns
  rw [marks, htags, hruns, List.tail_cons, List.zipWith_map, List.zipWith_self]
  refine List.map_congr_left fun w hw => ?_
  rw [mark, WideText.chars_wide, WideText.chars_wide, Tag.element?_toText (h w hw),
    unescape?_escape]

theorem count_flatMap_toText {ws : List Written} (h : ∀ w ∈ ws, w.tag.Named) :
    (ws.flatMap toText).count '<' = ws.length := by
  have hone : ∀ w ∈ ws, w.toText.count '<' = 1 := by
    intro w hw
    simp [toText, Tag.toText, List.count_eq_zero.2 (Tag.notMem_inner (.inl rfl) (h w hw)),
      List.count_eq_zero.2 (notMem_escape (.inl rfl) w.text)]
  have hones : ws.map (List.count '<' ∘ toText) = ws.map fun _ => 1 :=
    List.map_congr_left hone
  rw [List.count_flatMap, hones]
  simp

end Written

end Phrasebook.Html
