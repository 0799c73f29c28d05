import Phrasebook.Text.Wide

/-!
# Cutting pages

A page is cut into runs of text, tags and a tail. A tag goes from `<` to the next `>`, and a run up
to the next `<`; a `<` with no `>` behind it begins the tail. Nothing is lost: the pieces put
together are the page.
-/

namespace Phrasebook.Html

/-- A run of text and the tag behind it. -/
structure Piece where
  run : WideText
  tag : WideText
  deriving DecidableEq, Repr

/-- Pieces, the run behind the last tag, and the unterminated tag at the end, if any. -/
structure Pieces where
  pieces : List Piece
  last : WideText
  tail : WideText
  deriving DecidableEq, Repr

namespace Pieces

def toText (p : Pieces) : WideText :=
  p.pieces.flatMap (fun q => q.run ++ q.tag) ++ p.last ++ p.tail

/-- The pieces of `page`, put behind the pieces in `done`, whose last one comes first. -/
def ofTextAfter (done : List Piece) (page : WideText) : Pieces :=
  let run := page.takeWhile (· ≠ .char '<')
  let rest := page.dropWhile (· ≠ .char '<')
  match _ : rest.dropWhile (· ≠ .char '>') with
  | [] => ⟨done.reverse, run, rest⟩
  | c :: after => ofTextAfter (⟨run, rest.takeWhile (· ≠ .char '>') ++ [c]⟩ :: done) after
termination_by page.length
decreasing_by
  rename_i h
  have h1 := (List.dropWhile_suffix (l := rest) (· ≠ .char '>')).length_le
  have h2 := (List.dropWhile_suffix (l := page) (· ≠ .char '<')).length_le
  simp only [h, List.length_cons] at h1
  simp only [rest] at h1
  omega

/-- The pieces of a page. -/
def ofText (page : WideText) : Pieces :=
  ofTextAfter [] page

end Pieces

end Phrasebook.Html
