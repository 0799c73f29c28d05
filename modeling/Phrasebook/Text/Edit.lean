import Phrasebook.Text.Offset
import Phrasebook.Text.Wide

/-!
# Edits

An edit writes a text in place of the part between two offsets. A list of edits is applied from
left to right: what stands between the end of one edit and the start of the next is copied.
-/

namespace Phrasebook.Text

structure Edit where
  start : Int
  stop : Int
  insertion : WideText

namespace Edit

/-- The pieces of the edited text from the offset `last` on. -/
def pieces (text : WideText) (last : Int) : List Edit → List WideText
  | [] => [slice text last text.length]
  | e :: es => slice text last e.start :: e.insertion :: pieces text e.stop es

def applyAll (text : WideText) (edits : List Edit) : WideText :=
  (pieces text 0 edits).flatten

@[simp]
theorem applyAll_nil (text : WideText) : applyAll text [] = text := by
  have := slice_natCast text 0 text.length
  simpa [applyAll, pieces] using this

end Edit

end Phrasebook.Text
