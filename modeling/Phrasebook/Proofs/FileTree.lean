import Phrasebook.FileTree.Basic
import Phrasebook.Proofs.Paths
import Mathlib.Data.List.Infix
import Mathlib.Tactic.SplitIfs

/-!
# What operations on files do

A file can be read or written if its path fits and the way there is open, which is to say that all
directories on it are there (`read_eq_ok`, `write_eq_ok`). No operation takes a directory or a file
away, and none changes a file but those written (`Keeps`), so that what was written can be read as
long as nothing else is written to its place, and what can be read behind some operations could be
read before them. Two paths name the same file if they lead to the same place.
-/

namespace Phrasebook

namespace FileTree

/-- A path that can be looked at in some tree. -/
structure Fits (p : Path) : Prop where
  null : ∀ name ∈ p.names, '\x00' ∉ name
  path : Text.Utf8.size p.toText ≤ maxPath
  name : ∀ name ∈ p.names, Text.Utf8.size name ≤ maxName

/-- The place that a path leads to from the working directory of a tree. -/
def place (t : FileTree) (p : Path) : Place :=
  p.place t.here

/-- The way from a place on along some names leads through directories. -/
def Way (t : FileTree) (q : Place) (names : List Text) : Prop :=
  ∀ before, before <+: names → before ≠ names → t.get? (q.follow before) = some .directory

/-- A path fits, and the way along it leads through directories. -/
structure Open (t : FileTree) (p : Path) : Prop where
  fits : Fits p
  way : t.Way (p.start.place t.here) p.names

theorem way_nil (t : FileTree) (q : Place) : t.Way q [] := by
  intro before hpre hne
  exact absurd (List.prefix_nil.1 hpre) hne

theorem way_cons {t : FileTree} {q : Place} {name : Text} {names : List Text} :
    t.Way q (name :: names) ↔ t.get? q = some .directory ∧ t.Way (q.step name) names := by
  constructor
  · intro h
    refine ⟨?_, fun before hpre hne => ?_⟩
    · simpa using h [] List.nil_prefix (List.cons_ne_nil _ _).symm
    · exact h (name :: before) (List.cons_prefix_cons.2 ⟨rfl, hpre⟩) (by simpa using hne)
  · rintro ⟨hdone, hway⟩ before hpre hne
    rcases before with _ | ⟨n, before⟩
    · exact hdone
    · obtain ⟨rfl, hrest⟩ := List.cons_prefix_cons.1 hpre
      exact hway before hrest (by simpa using hne)

/-- The way to one name below a directory is open if the way to anything below it is. -/
theorem Way.sibling {t : FileTree} {q : Place} {names below : List Text}
    (h : t.Way q (names ++ below)) (hbelow : below ≠ []) (name : Text) :
    t.Way q (names ++ [name]) := by
  intro before hpre hne
  rcases List.prefix_concat_iff.1 hpre with rfl | hpre
  · exact absurd rfl hne
  · refine h before (hpre.trans (List.prefix_append _ _)) ?_
    rintro rfl
    have hlen := hpre.length_le
    have hpos := List.length_pos_of_ne_nil hbelow
    rw [List.length_append] at hlen
    omega

/-- The tree of what stands at some paths. -/
def ofEntries (here : Place) (entries : List (String × Entry)) : FileTree :=
  ⟨here, entries.map fun e => ((Path.ofString e.1).place here, e.2)⟩

/-! ## Looking at a path -/

theorem locateFrom_eq_ok {t : FileTree} {r : Place} : ∀ (names : List Text) (q : Place),
    t.locateFrom q names = .ok r ↔ (∀ name ∈ names, Text.Utf8.size name ≤ maxName)
      ∧ t.Way q names ∧ q.follow names = r
  | [], q => by simp [locateFrom, way_nil]
  | name :: names, q => by
    have ih := locateFrom_eq_ok (t := t) (r := r) names (q.step name)
    rw [locateFrom, way_cons, List.forall_mem_cons]
    rcases hget : t.get? q with _ | _ | content
    · simp
    · by_cases hsize : maxName < Text.Utf8.size name
      · simp [hsize, Nat.not_le.2 hsize]
      · simp [hsize, Nat.not_lt.1 hsize, ih]
    · simp

theorem locate_eq_ok {t : FileTree} {p : Path} {q : Place} :
    t.locate p = .ok q ↔ t.Open p ∧ t.place p = q := by
  have hnull : p.names.any (·.contains '\x00') = false ↔ ∀ name ∈ p.names, '\x00' ∉ name := by
    simp
  unfold locate
  split_ifs with h1 h2
  · have : ¬ t.Open p := fun ho => by
      rw [hnull.2 ho.fits.null] at h1
      cases h1
    simp [this]
  · have : ¬ t.Open p := fun ho => Nat.not_lt.2 ho.fits.path h2
    simp [this]
  · rw [locateFrom_eq_ok]
    constructor
    · rintro ⟨hname, hway, hplace⟩
      exact ⟨⟨⟨hnull.1 (Bool.eq_false_iff.2 h1), Nat.not_lt.1 h2, hname⟩, hway⟩, hplace⟩
    · rintro ⟨⟨hf, hway⟩, hplace⟩
      exact ⟨hf.name, hway, hplace⟩

theorem Open.locate {t : FileTree} {p : Path} (h : t.Open p) : t.locate p = .ok (t.place p) :=
  locate_eq_ok.2 ⟨h, rfl⟩

theorem locate_eq_error {t : FileTree} {p : Path} {e : Problem} (h : t.locate p = .error e) :
    ¬ t.Open p := by
  intro ho
  rw [ho.locate] at h
  cases h

theorem find_eq_ok {t : FileTree} {p : Path} {e : Option Entry} :
    t.find p = .ok e ↔ t.Open p ∧ t.get? (t.place p) = e := by
  unfold find
  rcases h : t.locate p with problem | q
  · simp [locate_eq_error h]
  · obtain ⟨ho, rfl⟩ := locate_eq_ok.1 h
    simp [ho]

theorem find_eq_error {t : FileTree} {p : Path} {e : Problem} (h : t.find p = .error e) :
    ¬ t.Open p := by
  intro ho
  rw [find_eq_ok.2 ⟨ho, rfl⟩] at h
  cases h

/-- The bytes of the file at a place, if there is one. -/
def file? (t : FileTree) (q : Place) : Option Bytes :=
  match t.get? q with
  | some (.file content) => some content
  | _ => none

theorem file?_eq_some {t : FileTree} {q : Place} {content : Bytes} :
    t.file? q = some content ↔ t.get? q = some (.file content) := by
  unfold file?
  rcases t.get? q with _ | _ | b <;> simp

/-- The bytes of the file that a path leads to, if there is one. -/
def fileAt? (t : FileTree) (p : Path) : Option Bytes :=
  t.file? (t.place p)

theorem read_eq_ok {t : FileTree} {p : Path} {content : Bytes} :
    t.read p = .ok content ↔ t.Open p ∧ t.fileAt? p = some content := by
  rw [fileAt?, file?_eq_some, ← find_eq_ok, read]
  rcases t.find p with _ | _ | _ | c <;> simp

/-- What stands at a place that is not a directory can be changed, and nothing else is. -/
theorem get?_put {t : FileTree} {q : Place} (hq : t.get? q ≠ some .directory) (e : Entry)
    (r : Place) : (t.put q e).get? r = if r = q then some e else t.get? r := by
  have habove : q.isPrefixOf t.here = false := by
    rw [← Bool.not_eq_true]
    intro h
    exact hq (by simp [get?, h])
  unfold get? put
  by_cases hr : r = q
  · subst hr
    simp [habove]
  · have hne : (r == q) = false := by simpa using hr
    have hfilter : ∀ entries : List (Place × Entry),
        (entries.filter fun f => f.1 != q).lookup r = entries.lookup r := by
      intro entries
      induction entries with
      | nil => rfl
      | cons f fs ih =>
        rcases f with ⟨s, e⟩
        by_cases hs : s = q
        · subst hs
          simp [List.lookup_cons, hne, ih]
        · simp [hs, List.lookup_cons, ih]
    simp [hr, List.lookup_cons, hne, hfilter]

theorem file?_put {t : FileTree} {q : Place} (hq : t.get? q ≠ some .directory) (content : Bytes)
    (r : Place) :
    (t.put q (.file content)).file? r = if r = q then some content else t.file? r := by
  unfold file?
  rw [get?_put hq]
  split_ifs <;> rfl

/-- A directory takes the place of no file. -/
theorem file?_put_directory {t : FileTree} {q : Place} (hq : t.get? q = none) (r : Place) :
    (t.put q .directory).file? r = t.file? r := by
  unfold file?
  rw [get?_put (by simp [hq])]
  by_cases hr : r = q
  · subst hr
    simp [hq]
  · rw [if_neg hr]

/-- The bytes of a file. Where there is none, there are no bytes. -/
def bytesOf (t : FileTree) (p : Path) : Bytes :=
  (t.fileAt? p).getD []

theorem update_eq_ok {t t' : FileTree} {p : Path} {change : Bytes → Bytes} :
    t.update p change = .ok t' ↔ t.Open p ∧ t.get? (t.place p) ≠ some .directory
      ∧ t.put (t.place p) (.file (change (t.bytesOf p))) = t' := by
  unfold update
  rcases h : t.locate p with e | q
  · simp [locate_eq_error h]
  · obtain ⟨ho, rfl⟩ := locate_eq_ok.1 h
    rcases hget : t.get? (t.place p) with _ | _ | c <;> simp [ho, hget, bytesOf, fileAt?, file?]

theorem appendNamed_eq_ok {t t' : FileTree} {name : Text} {content : Bytes} :
    t.appendNamed name content = .ok t' ↔ Text.Utf8.size name ≤ maxPath
      ∧ Path.directoryNamed? name = none ∧ t.append (.ofText name) content = .ok t' := by
  unfold appendNamed
  split_ifs with hsize
  · simp [Nat.not_le.2 hsize]
  · rcases Path.directoryNamed? name with _ | p
    · simp [Nat.not_lt.1 hsize]
    · simp only [reduceCtorEq, false_and, and_false, iff_false]
      rcases t.find p with _ | _ | _ | _ <;> exact nofun

/-- Something stands at a path if the way there is open and does not end in nothing. -/
theorem contains_eq_true {t : FileTree} {p : Path} :
    t.contains p = .ok true ↔ t.Open p ∧ t.get? (t.place p) ≠ none := by
  unfold contains
  rcases h : t.find p with e | e
  · have hne : ¬ (t.Open p ∧ t.get? (t.place p) ≠ none) := fun ⟨ho, _⟩ => find_eq_error h ho
    cases e <;> simp [hne]
  · obtain ⟨ho, rfl⟩ := find_eq_ok.1 h
    rcases t.get? (t.place p) with _ | e <;> simp [ho]

theorem contains_of_read {t : FileTree} {p : Path} {content : Bytes} (h : t.read p = .ok content) :
    t.contains p = .ok true := by
  obtain ⟨ho, hfile⟩ := read_eq_ok.1 h
  refine contains_eq_true.2 ⟨ho, ?_⟩
  rw [file?_eq_some.1 hfile]
  exact nofun

theorem makeDirectory_eq_ok {t t' : FileTree} {p : Path} : t.makeDirectory p = .ok t' ↔
    t.Open p ∧ (t.get? (t.place p) = none ∧ t.put (t.place p) .directory = t'
      ∨ t.get? (t.place p) = some .directory ∧ t = t') := by
  unfold makeDirectory
  rcases h : t.locate p with e | q
  · simp [locate_eq_error h]
  · obtain ⟨ho, rfl⟩ := locate_eq_ok.1 h
    rcases hget : t.get? (t.place p) with _ | _ | c <;> simp [ho, hget]

/-! ## What stays -/

/-- Directories and files stay, and no file changes but those written. -/
structure Keeps (written : Place → Prop) (t t' : FileTree) : Prop where
  here : t'.here = t.here
  directory : ∀ q, t.get? q = some .directory → t'.get? q = some .directory
  file : ∀ q b, t.file? q = some b → ∃ b', t'.file? q = some b'
  same : ∀ q, ¬ written q → t'.file? q = t.file? q

section Keeps

variable {written also : Place → Prop} {t t' t'' : FileTree} {p : Path} {q : Place}
  {content : Bytes}

theorem Keeps.refl (written : Place → Prop) (t : FileTree) : Keeps written t t :=
  ⟨rfl, fun _ h => h, fun _ b h => ⟨b, h⟩, fun _ _ => rfl⟩

theorem Keeps.trans (h : Keeps written t t') (h' : Keeps written t' t'') : Keeps written t t'' := by
  refine ⟨h'.here.trans h.here, fun q hq => h'.directory q (h.directory q hq), fun q b hq => ?_,
    fun q hw => (h'.same q hw).trans (h.same q hw)⟩
  obtain ⟨b', hb'⟩ := h.file q b hq
  exact h'.file q b' hb'

theorem Keeps.mono (h : Keeps written t t') (hw : ∀ q, written q → also q) : Keeps also t t' :=
  ⟨h.here, h.directory, h.file, fun q hq => h.same q fun hq' => hq (hw q hq')⟩

/-- A path leads to the same place as before. -/
theorem Keeps.place (h : Keeps written t t') (p : Path) : t'.place p = t.place p := by
  unfold FileTree.place
  rw [h.here]

theorem Keeps.way (h : Keeps written t t') {names : List Text} (hway : t.Way q names) :
    t'.Way q names := fun before hpre hne => h.directory _ (hway before hpre hne)

theorem Keeps.opens (h : Keeps written t t') (ho : t.Open p) : t'.Open p := by
  refine ⟨ho.fits, ?_⟩
  rw [h.here]
  exact h.way ho.way

theorem keeps_update {change : Bytes → Bytes} (h : t.update p change = .ok t') :
    Keeps (· = t.place p) t t' := by
  obtain ⟨-, hdir, rfl⟩ := update_eq_ok.1 h
  refine ⟨rfl, fun q hq => ?_, fun q b hq => ?_, fun q hq => ?_⟩
  · have hne : q ≠ t.place p := by
      rintro rfl
      exact hdir hq
    rw [get?_put hdir, if_neg hne, hq]
  · rw [file?_put hdir]
    split_ifs
    · exact ⟨_, rfl⟩
    · exact ⟨b, hq⟩
  · rw [file?_put hdir, if_neg hq]

theorem keeps_write (h : t.write p content = .ok t') : Keeps (· = t.place p) t t' :=
  keeps_update h

theorem keeps_appendNamed {name : Text} (h : t.appendNamed name content = .ok t') :
    Keeps (· = t.place (.ofText name)) t t' :=
  keeps_update (appendNamed_eq_ok.1 h).2.2

theorem keeps_makeDirectory (h : t.makeDirectory p = .ok t') (written : Place → Prop) :
    Keeps written t t' := by
  obtain ⟨-, ⟨hnone, rfl⟩ | ⟨-, rfl⟩⟩ := makeDirectory_eq_ok.1 h
  · refine ⟨rfl, fun q hq => ?_, fun q b hq => ⟨b, ?_⟩, fun q _ => file?_put_directory hnone q⟩
    · have hne : q ≠ t.place p := by
        rintro rfl
        rw [hnone] at hq
        cases hq
      rw [get?_put (by simp [hnone]), if_neg hne, hq]
    · rw [file?_put_directory hnone, hq]
  · exact Keeps.refl written t

/-- What can be read can be read later if the same file stands there. -/
theorem Keeps.read_of_fileAt? (h : Keeps written t t') (hfile : t'.fileAt? p = t.fileAt? p)
    (hread : t.read p = .ok content) : t'.read p = .ok content := by
  obtain ⟨ho, hcontent⟩ := read_eq_ok.1 hread
  exact read_eq_ok.2 ⟨h.opens ho, hfile.trans hcontent⟩

theorem Keeps.fileAt? (h : Keeps written t t') (hw : ¬ written (t.place p)) :
    t'.fileAt? p = t.fileAt? p := by
  rw [FileTree.fileAt?, h.place, h.same _ hw, FileTree.fileAt?]

/-- What can be read and is not written can be read later. -/
theorem Keeps.read (h : Keeps written t t') (hw : ¬ written (t.place p))
    (hread : t.read p = .ok content) : t'.read p = .ok content :=
  h.read_of_fileAt? (h.fileAt? hw) hread

/-- What can be read and was not written could be read before, if the way there was open. -/
theorem Keeps.read_before (h : Keeps written t t') (hw : ¬ written (t.place p))
    (hway : t.Way (p.start.place t.here) p.names) (hread : t'.read p = .ok content) :
    t.read p = .ok content := by
  obtain ⟨ho, hfile⟩ := read_eq_ok.1 hread
  rw [h.fileAt? hw] at hfile
  exact read_eq_ok.2 ⟨⟨ho.fits, hway⟩, hfile⟩

theorem read_update {change : Bytes → Bytes} (h : t.update p change = .ok t') :
    t'.read p = .ok (change (t.bytesOf p)) := by
  have hkeeps := keeps_update h
  obtain ⟨ho, hdir, rfl⟩ := update_eq_ok.1 h
  refine read_eq_ok.2 ⟨hkeeps.opens ho, ?_⟩
  rw [fileAt?, hkeeps.place, file?_put hdir, if_pos rfl]

theorem read_write (h : t.write p content = .ok t') : t'.read p = .ok content :=
  read_update h

theorem bytesOf_of_read (h : t.read p = .ok content) : t.bytesOf p = content := by
  rw [bytesOf, (read_eq_ok.1 h).2, Option.getD_some]

/-- Bytes are added behind those that were there. -/
theorem bytesOf_appendNamed {name : Text} (h : t.appendNamed name content = .ok t') :
    t'.bytesOf (.ofText name) = t.bytesOf (.ofText name) ++ content :=
  bytesOf_of_read (read_update (appendNamed_eq_ok.1 h).2.2)

/-- Elsewhere everything stays. -/
theorem get?_appendNamed {name : Text} (h : t.appendNamed name content = .ok t')
    (hq : q ≠ t.place (.ofText name)) : t'.get? q = t.get? q := by
  obtain ⟨-, -, happend⟩ := appendNamed_eq_ok.1 h
  obtain ⟨-, hdir, rfl⟩ := update_eq_ok.1 happend
  rw [get?_put hdir, if_neg hq]

/-- A file that could be added to can be added to again. -/
theorem Keeps.appendNamed {name : Text} (h : Keeps written t' t'')
    (happend : t.appendNamed name content = .ok t') (more : Bytes) :
    ∃ t₃, t''.appendNamed name more = .ok t₃ := by
  obtain ⟨hsize, hnamed, happend⟩ := appendNamed_eq_ok.1 happend
  obtain ⟨ho, hfile⟩ := read_eq_ok.1 (read_update happend)
  obtain ⟨b, hb⟩ := h.file _ _ hfile
  have hnot : t''.get? (t''.place (.ofText name)) ≠ some .directory := by
    rw [h.place, file?_eq_some.1 hb]
    exact nofun
  exact ⟨_, appendNamed_eq_ok.2 ⟨hsize, hnamed, update_eq_ok.2 ⟨h.opens ho, hnot, rfl⟩⟩⟩

/-- What is not written has the bytes it had. -/
theorem Keeps.bytesOf (h : Keeps written t t') (hw : ¬ written (t.place p)) :
    t'.bytesOf p = t.bytesOf p := by
  rw [FileTree.bytesOf, h.fileAt? hw, FileTree.bytesOf]

/-- Where something stands, something stays. -/
theorem Keeps.contains (h : Keeps written t t') (hp : t.contains p = .ok true) :
    t'.contains p = .ok true := by
  obtain ⟨ho, hget⟩ := contains_eq_true.1 hp
  refine contains_eq_true.2 ⟨h.opens ho, ?_⟩
  rw [h.place]
  rcases hentry : t.get? (t.place p) with _ | _ | b
  · exact absurd hentry hget
  · rw [h.directory _ hentry]
    exact nofun
  · obtain ⟨b', hb'⟩ := h.file _ b (file?_eq_some.2 hentry)
    rw [file?_eq_some.1 hb']
    exact nofun

/-- A directory that was made stands there. -/
theorem contains_of_makeDirectory (h : t.makeDirectory p = .ok t') : t'.contains p = .ok true := by
  have hkeeps := keeps_makeDirectory h fun _ => False
  obtain ⟨ho, ⟨hnone, rfl⟩ | ⟨hdir, rfl⟩⟩ := makeDirectory_eq_ok.1 h
  · refine contains_eq_true.2 ⟨hkeeps.opens ho, ?_⟩
    rw [hkeeps.place, get?_put (by simp [hnone]), if_pos rfl]
    exact nofun
  · refine contains_eq_true.2 ⟨ho, ?_⟩
    rw [hdir]
    exact nofun

/-- The working directory and the root are always there. -/
theorem directory_start (t : FileTree) (start : Path.Start) :
    t.Open ⟨start, []⟩ ∧ t.get? (t.place ⟨start, []⟩) = some .directory := by
  refine ⟨⟨⟨by simp, ?_, by simp⟩, t.way_nil _⟩, ?_⟩
  · cases start <;> decide
  · cases start <;> simp [place, Path.place, Path.Start.place, get?]

theorem contains_start (t : FileTree) (start : Path.Start) :
    t.contains ⟨start, []⟩ = .ok true := by
  obtain ⟨ho, hget⟩ := t.directory_start start
  exact contains_eq_true.2 ⟨ho, by simp [hget]⟩

theorem makeDirectory_start (t : FileTree) (start : Path.Start) :
    t.makeDirectory ⟨start, []⟩ = .ok t := by
  obtain ⟨ho, hget⟩ := t.directory_start start
  exact makeDirectory_eq_ok.2 ⟨ho, .inr ⟨hget, rfl⟩⟩

end Keeps

end FileTree

end Phrasebook
