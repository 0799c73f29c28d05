import Phrasebook.Proofs.Walk

/-!
# Counting open elements

How many elements of a name are open needs no stack: an opening tag adds one, and a closing tag
takes one away if there is one (`count_track`). Nor does it take more to say whether text is inside
an allowed element: there is an allowed name with a positive number (`allows_eq`).
-/

namespace Phrasebook.Html.Elements

/-- The number of open elements of a name behind a tag. -/
def countTag (e : Elements) (counts : Text → Nat) (tag : WideText) (name : Text) : Nat :=
  match e.effect? tag with
  | none => counts name
  | some t =>
    if t.name ≠ name then counts name
    else if t.closing then counts name - 1
    else counts name + 1

/-- Whether some allowed element is open. -/
def anyOpen (e : Elements) (counts : Text → Nat) : Bool :=
  e.allowed.any fun name => 0 < counts name

theorem count_erase (stack : List Text) (name other : Text) : (stack.erase name).count other
    = if name = other then stack.count other - 1 else stack.count other := by
  rw [List.count_erase]
  by_cases h : name = other
  · simp [h]
  · simp [h]

/-- A tag changes the numbers of open elements as it would with no stack. -/
theorem count_track (e : Elements) (stack : List Text) (tag : WideText) (name : Text) :
    (e.track stack tag).1.count name = e.countTag (fun n => stack.count n) tag name := by
  unfold track countTag
  rcases e.effect? tag with _ | ⟨_ | _, n⟩
  · rfl
  · by_cases h : n = name
    · simp [h]
    · simp [h]
  · have herase : (stack.erase n).count name
        = if n ≠ name then stack.count name else stack.count name - 1 := by
      rw [count_erase]
      by_cases h : n = name
      · rw [if_pos h, if_neg (not_not.2 h)]
      · rw [if_neg h, if_pos h]
    by_cases hhead : stack.head? = some n
    · simpa [hhead] using herase
    · by_cases hmem : n ∈ stack
      · simpa [hhead, hmem] using herase
      · have hzero : stack.count n = 0 := List.count_eq_zero_of_not_mem hmem
        by_cases h : n = name
        · subst h
          simp [hhead, hmem, hzero]
        · simp [hhead, hmem, h]

theorem allows_eq (e : Elements) (stack : List Text) :
    e.allows stack = e.anyOpen fun n => stack.count n := by
  rw [Bool.eq_iff_iff, allows, anyOpen, List.any_eq_true, List.any_eq_true]
  simp only [List.contains_iff_mem, decide_eq_true_eq, List.count_pos_iff]
  exact ⟨fun ⟨n, h1, h2⟩ => ⟨n, h2, h1⟩, fun ⟨n, h1, h2⟩ => ⟨n, h2, h1⟩⟩

end Phrasebook.Html.Elements
