import Phrasebook.Proofs.Tables
import Mathlib.Data.List.Forall2

/-!
# Reading a table of languages

A table of languages that is written with quoted fields is read back (`ofBytes_toText`): each row
with a code gives a language, in order, and the others give none. The names of the columns are
taken without the blanks around them, and if they are distinct then a field is the one that stands
under a name, in whatever order the columns stand and whatever other columns there are
(`field?_eq_lookup`). Blank lines describe no language, so it does no harm that some of them give
no record.
-/

namespace Phrasebook.Language

open Csv (Line)

/-- A field is the last one under a name, counted from the `n`-th field on. -/
theorem bind_find?_zipIdx (record : List Text) (column : Text) : ∀ (names : List Text) (n : Nat),
    names.Nodup → (((names.zipIdx n).reverse.find? (·.1 == column)).bind fun c => record[c.2]?)
      = (names.zip (record.drop n)).lookup column
  | [], n, _ => by simp
  | name :: names, n, h => by
    obtain ⟨hnot, hnodup⟩ := List.nodup_cons.1 h
    have ih := bind_find?_zipIdx record column names (n + 1) hnodup
    rw [List.zipIdx_cons, List.reverse_cons, List.find?_append]
    by_cases hc : name = column
    · have hnone : ((names.zipIdx (n + 1)).reverse.find? (·.1 == column)) = none := by
        rw [List.find?_eq_none]
        intro c hmem heq
        have hfst := List.fst_mem_of_mem_zipIdx (List.mem_reverse.1 hmem)
        rw [eq_of_beq heq, ← hc] at hfst
        exact hnot hfst
      have hfield : record[n]? = (record.drop n).head? := List.head?_drop.symm
      rw [hnone, Option.none_or, List.find?_cons_of_pos (by simpa using hc), Option.bind_some,
        hfield]
      rcases record.drop n with _ | ⟨t, ts⟩ <;> simp [hc]
    · have hlast : [(name, n)].find? (·.1 == column) = none := by simpa using hc
      have hbehind : record.drop (n + 1) = (record.drop n).tail := List.tail_drop.symm
      rw [hlast, Option.or_none, ih, hbehind]
      rcases record.drop n with _ | ⟨t, ts⟩
      · simp
      · have hne : (column == name) = false := by simpa using Ne.symm hc
        simp [List.lookup_cons, hne]

/-- With distinct names a field is the one that stands under the name. -/
theorem field?_eq_lookup {names : List Text} (h : names.Nodup) (record : List Text)
    (column : Text) : field? names record column = (names.zip record).lookup column := by
  have h := bind_find?_zipIdx record column names 0 h
  rwa [List.drop_zero] at h

/-- The field of a record under a name, without the blanks around it. -/
def cell (names record : List Text) (column : Text) : Text :=
  Text.strip (((names.zip record).lookup column).getD [])

/-- The language that a record with a code describes. A name goes by the code if its field is blank
or missing. -/
def described (names record : List Text) : Language :=
  let code := cell names record codeColumn
  let orCode name := if name = [] then code else name
  ⟨code, orCode (cell names record nativeColumn), orCode (cell names record englishColumn)⟩

/-- A record holds the code and the names of a language as they are. -/
structure Holds (names record : List Text) (l : Language) : Prop where
  code : (names.zip record).lookup codeColumn = some l.code
  native : (names.zip record).lookup nativeColumn = some l.native
  english : (names.zip record).lookup englishColumn = some l.english

/-- Neither the code nor a name is empty or has blanks around it. -/
def Neat (l : Language) : Prop :=
  ∀ t ∈ [l.code, l.native, l.english], t ≠ [] ∧ Text.strip t = t

instance (l : Language) : Decidable l.Neat :=
  inferInstanceAs (Decidable (∀ t ∈ [l.code, l.native, l.english], t ≠ [] ∧ Text.strip t = t))

section Records

variable {names record : List Text} {l : Language}

theorem ofRecord?_nil (names : List Text) : ofRecord? names [] = none := by
  have hfield : ∀ column, field? names [] column = none := by
    intro column
    simp [field?]
  simp [ofRecord?, hfield, Text.strip]

theorem ofRecord?_eq (h : names.Nodup) (record : List Text) : ofRecord? names record
    = if cell names record codeColumn ≠ [] then some (described names record) else none := by
  have hcell : ∀ column, Text.strip ((field? names record column).getD [])
      = cell names record column := by
    intro column
    rw [field?_eq_lookup h, cell]
  by_cases hcode : cell names record codeColumn = [] <;>
    simp [ofRecord?, described, hcell, hcode]

theorem Holds.ofRecord? (hnames : names.Nodup) (h : Holds names record l) (hl : l.Neat) :
    ofRecord? names record = some l := by
  have hcell : ∀ {column t}, (names.zip record).lookup column = some t → Text.strip t = t →
      cell names record column = t := by
    intro column t hlookup hstrip
    rw [cell, hlookup, Option.getD_some, hstrip]
  obtain ⟨hcode, hcode'⟩ := hl l.code (by simp)
  obtain ⟨hnative, hnative'⟩ := hl l.native (by simp)
  obtain ⟨henglish, henglish'⟩ := hl l.english (by simp)
  simp only [ofRecord?_eq hnames, described, hcell h.code hcode', hcell h.native hnative',
    hcell h.english henglish']
  rw [if_pos hcode, if_neg hnative, if_neg henglish]

end Records

/-! ## Whole tables -/

section Lists

variable {α β : Type} {f : α → Option β}

theorem filterMap_of_forall₂ {R : α → β → Prop} {xs : List α} {ys : List β}
    (h : List.Forall₂ R xs ys) (hf : ∀ x, ∀ y ∈ ys, R x y → f x = some y) :
    xs.filterMap f = ys := by
  induction h with
  | nil => rfl
  | cons hxy _ ih =>
    obtain ⟨hhead, htail⟩ := List.forall_mem_cons.1 fun y hy x => hf x y hy
    rw [List.filterMap_cons_some (hhead _ hxy), ih fun x y hy => htail y hy x]

/-- Leaving out what gives nothing changes nothing. -/
theorem filterMap_filter_of_none {p : α → Bool} (hf : ∀ x, p x = false → f x = none)
    (xs : List α) : (xs.filter p).filterMap f = xs.filterMap f := by
  rw [List.filterMap_filter]
  refine List.filterMap_congr fun x _ => ?_
  rcases hp : p x with _ | _
  · simp [hf x hp]
  · simp

end Lists

theorem ofBytes_encode (t : Text) : ofBytes (Text.Utf8.encode t) = ofText t := by
  rw [ofBytes, Text.Utf8.readLines, Text.Utf8.decode_encode]

section Tables

variable {header : Line} {rows : List Line}

theorem ofBytes_eq_filterMap (hcode : codeColumn ∈ header.record.map Text.strip)
    (hsize : ∀ l ∈ header :: rows, ∀ t ∈ l.record, t.length ≤ Csv.maxField) :
    ofBytes (Text.Utf8.encode (Csv.toText (header :: rows)))
      = .ok (rows.filterMap fun row => ofRecord? (header.record.map Text.strip) row.record) := by
  have hcells : header.cells ≠ [] := by
    intro h
    simp [Line.record, h] at hcode
  obtain ⟨rest, hrecords, hrest⟩ := Csv.records_toText hcells hsize
  have hblank := filterMap_filter_of_none (p := fun r : List Text => decide (r ≠ []))
    (f := ofRecord? (header.record.map Text.strip)) (by simp [ofRecord?_nil])
  have hrows : rest.filterMap (ofRecord? (header.record.map Text.strip))
      = rows.filterMap fun row => ofRecord? (header.record.map Text.strip) row.record := by
    rw [← hblank, hrest, hblank, List.filterMap_map]
    rfl
  rw [ofBytes_encode, ofText, hrecords]
  simp [ofRecords, hcode, hrows]

/-- A table of languages whose columns have distinct names, one of them that of the code's column,
gives a language for each row with a code, in the order of the rows; so languages whose codes and
names are neat are read as they were written. -/
theorem ofBytes_toText (hcode : codeColumn ∈ header.record.map Text.strip)
    (hnames : (header.record.map Text.strip).Nodup)
    (hsize : ∀ l ∈ header :: rows, ∀ t ∈ l.record, t.length ≤ Csv.maxField) :
    let names := header.record.map Text.strip
    let bytes := Text.Utf8.encode (Csv.toText (header :: rows))
    ofBytes bytes = .ok ((rows.filter fun row => cell names row.record codeColumn ≠ []).map
      fun row => described names row.record)
    ∧ ∀ languages, (∀ l ∈ languages, l.Neat) → List.Forall₂ (fun row l => Holds names row.record l)
      (rows.filter fun row => row.record ≠ []) languages → ofBytes bytes = .ok languages := by
  intro names bytes
  have hread : ofBytes bytes = .ok (rows.filterMap fun row => ofRecord? names row.record) :=
    ofBytes_eq_filterMap hcode hsize
  have hrecord : ∀ row : Line, ofRecord? names row.record
      = if cell names row.record codeColumn ≠ [] then some (described names row.record) else none :=
    fun row => ofRecord?_eq hnames row.record
  refine ⟨?_, ?_⟩
  · rw [hread, ← List.filterMap_eq_map', List.filterMap_filter]
    simp only [hrecord, decide_eq_true_eq]
  · intro languages hneat hholds
    have hblank : ∀ row : Line, decide (row.record ≠ []) = false
        → ofRecord? names row.record = none := by
      intro row hrow
      have hnil : row.record = [] := by simpa using hrow
      rw [hnil, ofRecord?_nil]
    rw [hread, ← filterMap_filter_of_none hblank]
    exact congrArg Except.ok (filterMap_of_forall₂ hholds
      fun row l hl h => h.ofRecord? hnames (hneat l hl))

end Tables

/-- The columns stand in another order and with blanks around their names, a line feed of a blank
line belongs to the carriage return before it, and a note holds commas, quotes and line breaks. -/
def notedTable : List Line :=
  [⟨[⟨0, " code".toList⟩, ⟨1, "note".toList⟩, ⟨0, "english name\n".toList⟩,
      ⟨2, "native name ".toList⟩], .carriageReturn⟩,
    ⟨[], .feed⟩,
    ⟨[⟨0, "zh".toList⟩, ⟨0, "a, \"b\"\r\n,".toList⟩, ⟨3, "Chinese".toList⟩,
      ⟨0, "中文".toList⟩], .both⟩,
    ⟨[], .both⟩,
    ⟨[⟨0, "fr".toList⟩, ⟨0, "".toList⟩, ⟨0, "French".toList⟩,
      ⟨1, "le \"français\"".toList⟩], .feed⟩]

theorem ofBytes_notedTable : ofBytes (Text.Utf8.encode (Csv.toText notedTable)) = .ok
    [⟨"zh".toList, "中文".toList, "Chinese".toList⟩,
      ⟨"fr".toList, "le \"français\"".toList, "French".toList⟩] :=
  (@ofBytes_toText (notedTable.head (by decide)) notedTable.tail (by decide) (by decide)
    (by decide)).2 _ (by decide) (.cons ⟨rfl, rfl, rfl⟩ (.cons ⟨rfl, rfl, rfl⟩ .nil))

end Phrasebook.Language
