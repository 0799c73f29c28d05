import Phrasebook.Language
import Phrasebook.Proofs.Encoding

/-!
# Writing and reading tables

A table is written line by line: each field between double quotes, with its quotes doubled and any
number of spaces before it, the fields set apart by commas, and a line feed, a carriage return or
both at the end. A line without fields is blank. Reading gives back the records that were written,
save that blank lines may be lost, as a line feed behind a carriage return belongs to it
(`records_toText`).
-/

namespace Phrasebook

namespace Csv

/-- A field as it is written, with the number of spaces before it. -/
structure Cell where
  spaces : Nat
  text : Text

inductive LineBreak
  | feed
  | carriageReturn
  | both

/-- A line of a table as it is written. -/
structure Line where
  cells : List Cell
  ending : LineBreak

def double (c : Char) : Text :=
  if c = '"' then ['"', '"'] else [c]

def Cell.toText (f : Cell) : Text :=
  List.replicate f.spaces ' ' ++ '"' :: f.text.flatMap double ++ ['"']

def LineBreak.toText : LineBreak → Text
  | feed => ['\n']
  | carriageReturn => ['\r']
  | both => ['\r', '\n']

def Line.toText (l : Line) : Text :=
  List.intercalate [','] (l.cells.map Cell.toText) ++ l.ending.toText

/-- The record that a line holds. -/
def Line.record (l : Line) : List Text :=
  l.cells.map Cell.text

def toText (lines : List Line) : Text :=
  lines.flatMap Line.toText

/-- A line may begin here. -/
def Place.BeginsLine (p : Place) : Prop :=
  p = .line ∨ p = .lineAfterReturn

/-- A field may begin here. -/
def Place.BeginsField (p : Place) : Prop :=
  p.BeginsLine ∨ p = .field

namespace Reader

/-- The reader comes through a text without a fault. -/
def Reads (r : Reader) (t : Text) (r' : Reader) : Prop :=
  r.readAll t = (r', none)

theorem Reads.nil (r : Reader) : r.Reads [] r := rfl

theorem Reads.cons {r r₁ r₂ : Reader} {c : Char} {t : Text} (h : r.read c = .ok r₁)
    (h' : r₁.Reads t r₂) : r.Reads (c :: t) r₂ := by
  rw [Reads, readAll, h]
  exact h'

theorem Reads.append : ∀ {s t : Text} {r r₁ r₂ : Reader}, r.Reads s r₁ → r₁.Reads t r₂ →
    r.Reads (s ++ t) r₂
  | [], t, r, r₁, r₂, h, h' => by
    rw [Reads, readAll, Prod.mk.injEq] at h
    rw [h.1]
    exact h'
  | c :: s, t, r, r₁, r₂, h, h' => by
    rw [Reads, readAll] at h
    rcases hc : r.read c with e | r₀ <;> rw [hc] at h
    · simp at h
    · exact .cons hc (Reads.append h h')

/-! ## Fields -/

section Fields

variable {p : Place} {fields : List Text} {records : List (List Text)}

theorem read_of_beginsField (hp : p.BeginsField) {c : Char} (hc : Text.isLineBreak c = false) :
    read ⟨p, [], 0, fields, records⟩ c = readField ⟨p, [], 0, fields, records⟩ c := by
  rcases hp with (rfl | rfl) | rfl
  · simp [read, readLine, hc]
  · have hfeed : c ≠ '\n' := by
      rintro rfl
      simp [Text.isLineBreak] at hc
    simp [read, readLine, hc, hfeed]
  · rfl

variable (fields records)

theorem reads_spaces : ∀ (n : Nat) {p : Place}, p.BeginsField → ∃ p' : Place, p'.BeginsField ∧
    Reads ⟨p, [], 0, fields, records⟩ (List.replicate n ' ') ⟨p', [], 0, fields, records⟩
  | 0, p, hp => ⟨p, hp, .nil _⟩
  | n + 1, p, hp => by
    obtain ⟨p', hp', h⟩ := reads_spaces n (.inr rfl)
    refine ⟨p', hp', .cons ?_ h⟩
    rw [read_of_beginsField hp (by decide)]
    simp [readField, Text.isLineBreak]

theorem reads_double : ∀ (t field : Text) (length : Nat), length + t.length ≤ maxField →
    Reads ⟨.quoted, field, length, fields, records⟩ (t.flatMap double)
      ⟨.quoted, t.reverse ++ field, length + t.length, fields, records⟩
  | [], field, length, _ => .nil _
  | c :: t, field, length, h => by
    have hroom : ¬ maxField ≤ length := by
      rw [List.length_cons] at h
      omega
    have ih := reads_double t (c :: field) (length + 1) (by rw [List.length_cons] at h; omega)
    have hend : (c :: t).reverse ++ field = t.reverse ++ c :: field := by simp
    have hlength : length + (c :: t).length = length + 1 + t.length := by
      rw [List.length_cons]
      omega
    rw [List.flatMap_cons, hend, hlength, double]
    split_ifs with hc
    · subst hc
      exact .cons rfl (.cons (by simp [read, Text.isLineBreak, add, hroom]) ih)
    · exact .cons (by simp [read, hc, add, hroom]) ih

theorem reads_cell (hp : p.BeginsField) (f : Cell) (hf : f.text.length ≤ maxField) :
    Reads ⟨p, [], 0, fields, records⟩ f.toText
      ⟨.quote, f.text.reverse, f.text.length, fields, records⟩ := by
  obtain ⟨p', hp', hspaces⟩ := reads_spaces fields records f.spaces hp
  have hopen : read ⟨p', [], 0, fields, records⟩ '"' = .ok ⟨.quoted, [], 0, fields, records⟩ := by
    rw [read_of_beginsField hp' (by decide)]
    simp [readField, Text.isLineBreak]
  have hdouble := reads_double fields records f.text [] 0 (by omega)
  rw [List.append_nil, Nat.zero_add] at hdouble
  exact (hspaces.append (.cons hopen hdouble)).append (.cons rfl (.nil _))

end Fields

/-! ## Lines -/

section Lines

variable {p : Place} {records : List (List Text)}

/-- If a line break ends the line, a line feed may follow a carriage return. -/
theorem reads_break {r : Reader} {fields : List Text} (h : ∀ c, Text.isLineBreak c = true →
    r.read c = .ok (endLine ⟨p, [], 0, fields, records⟩ c)) (b : LineBreak) : ∃ p' : Place,
      p'.BeginsLine ∧ Reads r b.toText ⟨p', [], 0, [], fields.reverse :: records⟩ := by
  cases b with
  | feed => exact ⟨.line, .inl rfl, .cons (h '\n' rfl) (.nil _)⟩
  | carriageReturn => exact ⟨.lineAfterReturn, .inr rfl, .cons (h '\r' rfl) (.nil _)⟩
  | both => exact ⟨.line, .inl rfl, .cons (h '\r' rfl) (.cons rfl (.nil _))⟩

variable (records)

/-- A line with fields gives its record. -/
theorem reads_line (b : LineBreak) : ∀ (cells : List Cell) (f : Cell) {p : Place}
    (fields : List Text), p.BeginsField → (∀ g ∈ f :: cells, g.text.length ≤ maxField) →
      ∃ p' : Place, p'.BeginsLine ∧ Reads ⟨p, [], 0, fields, records⟩
        (Line.toText ⟨f :: cells, b⟩)
        ⟨p', [], 0, [], (fields.reverse ++ (f :: cells).map Cell.text) :: records⟩
  | [], f, p, fields, hp, hsize => by
    have hcell := reads_cell fields records hp f
      (hsize f List.mem_cons_self)
    have hend : ∀ c, Text.isLineBreak c = true →
        read ⟨.quote, f.text.reverse, f.text.length, fields, records⟩ c
          = .ok (endLine ⟨.field, [], 0, f.text :: fields, records⟩ c) := by
      intro c hc
      simp [read, hc, save]
    obtain ⟨p', hp', hbreak⟩ := reads_break hend b
    refine ⟨p', hp', ?_⟩
    simpa [Line.toText] using hcell.append hbreak
  | g :: cells, f, p, fields, hp, hsize => by
    have hcell := reads_cell fields records hp f
      (hsize f List.mem_cons_self)
    have hcomma : read ⟨.quote, f.text.reverse, f.text.length, fields, records⟩ ','
        = .ok ⟨.field, [], 0, f.text :: fields, records⟩ := by
      simp [read, Text.isLineBreak, save]
    obtain ⟨p', hp', hrest⟩ := reads_line b cells g (f.text :: fields) (.inr rfl)
      (fun x hx => hsize x (List.mem_cons_of_mem f hx))
    refine ⟨p', hp', ?_⟩
    simpa [Line.toText, List.intercalate_cons_cons] using hcell.append (.cons hcomma hrest)

/-- A blank line gives a record without fields, or none if it is the line feed that belongs to a
carriage return. -/
theorem reads_blank (hp : p.BeginsLine) (b : LineBreak) : ∃ (p' : Place) (blank : List (List Text)),
    p'.BeginsLine ∧ (∀ r ∈ blank, r = [])
      ∧ Reads ⟨p, [], 0, [], records⟩ b.toText ⟨p', [], 0, [], blank ++ records⟩ := by
  rcases hp with rfl | rfl
  · have hend : ∀ c, Text.isLineBreak c = true → read ⟨.line, [], 0, [], records⟩ c
        = .ok (endLine ⟨.line, [], 0, [], records⟩ c) := by
      intro c hc
      simp [read, readLine, hc]
    obtain ⟨p', hp', hbreak⟩ := reads_break hend b
    exact ⟨p', [[]], hp', by simp, hbreak⟩
  · cases b with
    | feed => exact ⟨.line, [], .inl rfl, by simp, .cons rfl (.nil _)⟩
    | carriageReturn => exact ⟨.lineAfterReturn, [[]], .inr rfl, by simp, .cons rfl (.nil _)⟩
    | both => exact ⟨.line, [[]], .inl rfl, by simp, .cons rfl (.cons rfl (.nil _))⟩

/-- Lines give their records, save that blank ones may be lost. -/
theorem reads_lines : ∀ (lines : List Line) {p : Place} (records : List (List Text)),
    p.BeginsLine → (∀ l ∈ lines, ∀ t ∈ l.record, t.length ≤ maxField) →
      ∃ (p' : Place) (added : List (List Text)), p'.BeginsLine
        ∧ Reads ⟨p, [], 0, [], records⟩ (toText lines) ⟨p', [], 0, [], added.reverse ++ records⟩
        ∧ added.filter (· ≠ []) = (lines.map Line.record).filter (· ≠ [])
  | [], p, records, hp, _ => ⟨p, [], hp, .nil _, rfl⟩
  | ⟨[], b⟩ :: lines, p, records, hp, hsize => by
    obtain ⟨p₁, blank, hp₁, hblank, hline⟩ := reads_blank records hp b
    obtain ⟨p', added, hp', hrest, hadded⟩ := reads_lines lines (blank ++ records) hp₁
      (fun l hl => hsize l (List.mem_cons_of_mem _ hl))
    refine ⟨p', blank.reverse ++ added, hp', ?_, ?_⟩
    · have h := hline.append hrest
      simpa [toText, Line.toText] using h
    · have hnone : blank.reverse.filter (· ≠ []) = [] := by
        simpa [List.filter_eq_nil_iff] using hblank
      rw [List.filter_append, hnone, List.nil_append, hadded]
      simp [Line.record]
  | ⟨f :: cells, b⟩ :: lines, p, records, hp, hsize => by
    obtain ⟨hfirst, hlines⟩ := List.forall_mem_cons.1 hsize
    obtain ⟨p₁, hp₁, hline⟩ := reads_line records b cells f [] (.inl hp)
      (by simpa [Line.record] using hfirst)
    obtain ⟨p', added, hp', hrest, hadded⟩ := reads_lines lines _ hp₁ hlines
    refine ⟨p', (f :: cells).map Cell.text :: added, hp', ?_, ?_⟩
    · have h := hline.append hrest
      simpa [toText] using h
    · simpa [Line.record] using hadded

end Lines

end Reader

/-- The records of a table that begins with a line that is not blank. -/
theorem records_toText {first : Line} {lines : List Line} (hfirst : first.cells ≠ [])
    (hsize : ∀ l ∈ first :: lines, ∀ t ∈ l.record, t.length ≤ maxField) :
    ∃ rest, records (toText (first :: lines)) = (first.record :: rest, none)
      ∧ rest.filter (· ≠ []) = (lines.map Line.record).filter (· ≠ []) := by
  obtain ⟨_ | ⟨f, cells⟩, b⟩ := first
  · exact absurd rfl hfirst
  obtain ⟨hcells, hlines⟩ := List.forall_mem_cons.1 hsize
  obtain ⟨p₁, hp₁, hline⟩ := Reader.reads_line [] b cells f [] (.inl (.inl rfl))
    (by simpa [Line.record] using hcells)
  obtain ⟨p', rest, hp', hrest, hrecords⟩ := Reader.reads_lines lines _ hp₁ hlines
  refine ⟨rest, ?_, hrecords⟩
  have hread := hline.append hrest
  have hfinish : ∀ fields, Reader.finish ⟨p', [], 0, [], fields⟩ = ⟨p', [], 0, [], fields⟩ := by
    rcases hp' with rfl | rfl <;> exact fun _ => rfl
  rw [Reader.Reads] at hread
  rw [records, toText, List.flatMap_cons, ← toText, hread]
  simp [hfinish, Line.record]

end Csv

end Phrasebook
