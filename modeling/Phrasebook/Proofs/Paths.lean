import Phrasebook.FileTree.Path
import Mathlib.Data.List.Basic
import Mathlib.Tactic.SplitIfs

/-!
# Where paths lead

A name that is followed from a path on leads to that name in the directory of the path
(`IsName.place_join`), so two names lead to two places. A text that ends in an ordinary character
leads to a place whose name ends in it, wherever it is followed from (`getLast?_name_join`): files
whose names end differently are different files, on whatever ways they are named.
-/

namespace Phrasebook

/-! ## Parts of a text -/

theorem Text.cut_of_forall_not {isEnd : Char → Bool} : ∀ {t : Text} (part : Text),
    (∀ c ∈ t, isEnd c = false) → Text.cut isEnd t part = [part.reverse ++ t]
  | [], part, _ => by simp [Text.cut]
  | c :: t, part, h => by
    rw [Text.cut, h c List.mem_cons_self, if_neg (by simp),
      cut_of_forall_not _ fun d hd => h d (List.mem_cons_of_mem _ hd)]
    simp

/-- The last part of a text ends like the text. -/
theorem Text.exists_cut_concat (isEnd : Char → Bool) {c : Char} (hc : isEnd c = false) :
    ∀ (t part : Text), ∃ parts stem, Text.cut isEnd (t ++ [c]) part = parts ++ [stem ++ [c]]
  | [], part => ⟨[], part.reverse, by simp [Text.cut, hc]⟩
  | d :: t, part => by
    rw [List.cons_append, Text.cut]
    split_ifs
    · obtain ⟨parts, stem, hcut⟩ := exists_cut_concat isEnd hc t []
      exact ⟨part.reverse :: parts, stem, by rw [hcut, List.cons_append]⟩
    · exact exists_cut_concat isEnd hc t (d :: part)

/-! ## Places -/

namespace Place

/-- The name of what stands at a place, empty for the root. -/
def name (q : Place) : Text :=
  q.getLast?.getD []

@[simp]
theorem follow_nil (q : Place) : q.follow [] = q := rfl

@[simp]
theorem follow_cons (q : Place) (name : Text) (names : List Text) :
    q.follow (name :: names) = (q.step name).follow names := rfl

theorem follow_append (q : Place) (names more : List Text) :
    q.follow (names ++ more) = (q.follow names).follow more :=
  List.foldl_append

theorem step_of_ne_back (q : Place) {name : Text} (h : name ≠ back) : q.step name = q ++ [name] :=
  if_neg h

theorem follow_concat (q : Place) (names : List Text) {name : Text} (h : name ≠ back) :
    q.follow (names ++ [name]) = q.follow names ++ [name] := by
  rw [follow_append, follow_cons, follow_nil, step_of_ne_back _ h]

end Place

namespace Path

/-- The text is the name of a file as it stands, and not a way to one. -/
structure IsName (name : Text) : Prop where
  ne_nil : name ≠ []
  ne_dot : name ≠ ['.']
  ne_back : name ≠ Place.back
  slash : '/' ∉ name

section Names

variable {name other : Text} {here : Place}

/-- A text that does not begin with a slash is followed from the path on. -/
theorem join_of_relative (p : Path) {t : Text} (h : t.head? ≠ some '/') :
    p.join t = ⟨p.start, p.names ++ (ofText t).names⟩ := by
  have hstart : Start.ofText t = .here := by
    rcases t with _ | ⟨c, t⟩
    · rfl
    · simp only [List.head?_cons, ne_eq, Option.some.injEq] at h
      simp [Start.ofText, h]
  rw [join, append, ofText, hstart, if_pos rfl]

/-- A name behind a path is one more name on the way. -/
theorem IsName.join (h : IsName name) (p : Path) : p.join name = ⟨p.start, p.names ++ [name]⟩ := by
  have hcut : Text.cut (· = '/') name = [name] := by
    refine (Text.cut_of_forall_not [] fun c hc => ?_).trans (by simp)
    rw [decide_eq_false_iff_not]
    rintro rfl
    exact h.slash hc
  have hhead : name.head? ≠ some '/' := fun heq => h.slash (List.mem_of_mem_head? heq)
  rw [p.join_of_relative hhead]
  simp [ofText, steps, hcut, h.ne_nil, h.ne_dot]

/-- A name behind a path leads to that name where the path leads. -/
theorem IsName.place_join (h : IsName name) (p : Path) :
    (p.join name).place here = p.place here ++ [name] := by
  rw [h.join]
  exact Place.follow_concat _ _ h.ne_back

theorem IsName.place_join_ne (h : IsName name) (h' : IsName other) (hne : name ≠ other) (p : Path) :
    (p.join name).place here ≠ (p.join other).place here := by
  rw [h.place_join, h'.place_join, ne_eq, List.append_right_inj]
  intro heq
  exact hne (List.cons.inj heq).1

end Names

/-- What a text that ends in an ordinary character leads to has a name that ends in it too. -/
theorem getLast?_name_join (here : Place) (p : Path) (t : Text) {c : Char} (hslash : c ≠ '/')
    (hdot : c ≠ '.') : ((p.join (t ++ [c])).place here).name.getLast? = some c := by
  obtain ⟨parts, stem, hcut⟩ := Text.exists_cut_concat (· = '/') (by simpa using hslash) t []
  have hlast : (stem ++ [c]).getLast? = some c := List.getLast?_concat
  have hdots : stem ++ [c] ≠ ['.'] ∧ stem ++ [c] ≠ Place.back := by
    constructor <;>
    · intro heq
      rw [heq] at hlast
      exact hdot (Option.some.inj hlast).symm
  have hnames : (ofText (t ++ [c])).names
      = (parts.filter (!·.isEmpty)).filter (· ≠ ['.']) ++ [stem ++ [c]] := by
    simp [ofText, steps, hcut, hdots.1]
  have hplace : ∃ q, (p.join (t ++ [c])).place here = q ++ [stem ++ [c]] := by
    unfold join append place
    split_ifs
    · rw [hnames, ← List.append_assoc]
      exact ⟨_, Place.follow_concat _ _ hdots.2⟩
    · rw [hnames]
      exact ⟨_, Place.follow_concat _ _ hdots.2⟩
  obtain ⟨q, hq⟩ := hplace
  rw [hq, Place.name, List.getLast?_concat, Option.getD_some, hlast]

end Path

end Phrasebook
