import Phrasebook.Html.Elements
import Phrasebook.Proofs.Pieces

/-!
# Walking a page

A page is walked token by token: a run of text inside an allowed element goes through a function,
and all else stays as it is (`walk`). What `mapText` puts out is the tokens walked and the tail, and
what it notes is what the tags do to the open elements (`mapText_eq`). Which elements are open
depends on the tags alone, so a walk falls into walks of parts (`walk_append`).
-/

namespace Phrasebook.Html.Elements

/-- The elements that are open behind some tokens. -/
def after (e : Elements) : List Text → List Token → List Text
  | stack, [] => stack
  | stack, .run _ :: ts => e.after stack ts
  | stack, .tag t :: ts => e.after (e.track stack t).1 ts

/-- What there is to note about the tags among some tokens. -/
def noticesIn (e : Elements) : List Text → List Token → List Notice
  | _, [] => []
  | stack, .run _ :: ts => e.noticesIn stack ts
  | stack, .tag t :: ts => (e.track stack t).2.toList ++ e.noticesIn (e.track stack t).1 ts

theorem after_append (e : Elements) : ∀ (stack : List Text) (xs ys : List Token),
    e.after stack (xs ++ ys) = e.after (e.after stack xs) ys
  | _, [], _ => rfl
  | stack, .run _ :: xs, ys => after_append e stack xs ys
  | stack, .tag t :: xs, ys => after_append e (e.track stack t).1 xs ys

theorem noticesIn_append (e : Elements) : ∀ (stack : List Text) (xs ys : List Token),
    e.noticesIn stack (xs ++ ys) = e.noticesIn stack xs ++ e.noticesIn (e.after stack xs) ys
  | _, [], _ => rfl
  | stack, .run _ :: xs, ys => noticesIn_append e stack xs ys
  | stack, .tag t :: xs, ys => by
    simp only [List.cons_append, noticesIn, after, noticesIn_append e (e.track stack t).1 xs ys,
      List.append_assoc]

@[simp]
theorem after_ofRun (e : Elements) (stack : List Text) (t : WideText) :
    e.after stack (Token.ofRun t) = stack := by
  rcases t with _ | ⟨c, t⟩ <;> rfl

@[simp]
theorem noticesIn_ofRun (e : Elements) (stack : List Text) (t : WideText) :
    e.noticesIn stack (Token.ofRun t) = [] := by
  rcases t with _ | ⟨c, t⟩ <;> rfl

/-- The elements that are open behind the last tag of a page. -/
def openAfter (e : Elements) (page : WideText) : List Text :=
  (Pieces.ofText page).pieces.foldl (fun stack q => (e.track stack q.tag).1) []

theorem foldl_track (e : Elements) : ∀ (ps : List Piece) (stack : List Text),
    ps.foldl (fun stack q => (e.track stack q.tag).1) stack
      = e.after stack (ps.flatMap Piece.tokens)
  | [], _ => rfl
  | q :: ps, stack => by
    rw [List.foldl_cons, foldl_track e ps, List.flatMap_cons, after_append, Piece.tokens,
      after_append, after_ofRun]
    rfl

theorem openAfter_eq (e : Elements) (page : WideText) :
    e.openAfter page = e.after [] (Pieces.ofText page).tokens := by
  rw [openAfter, foldl_track, Pieces.tokens, after_append, after_ofRun]

section Monadic

variable {m : Type → Type} [Monad m]

/-- The tokens with a function applied to each run inside an allowed element. -/
def walk (e : Elements) (f : WideText → m WideText) : List Text → List Token → m (List Token)
  | _, [] => pure []
  | stack, .run t :: ts => do
    let t ← if e.allows stack then f t else pure t
    let ts ← e.walk f stack ts
    pure (.run t :: ts)
  | stack, .tag t :: ts => do
    let ts ← e.walk f (e.track stack t).1 ts
    pure (.tag t :: ts)

variable [LawfulMonad m] (e : Elements) (f : WideText → m WideText)

theorem walk_append : ∀ (stack : List Text) (xs ys : List Token),
    e.walk f stack (xs ++ ys) = do
      let a ← e.walk f stack xs
      let b ← e.walk f (e.after stack xs) ys
      pure (a ++ b)
  | _, [], _ => by simp [walk, after]
  | stack, .run t :: xs, ys => by
    have ih := walk_append stack xs ys
    simp only [List.cons_append, walk, ih, after]
    split_ifs <;> simp
  | stack, .tag t :: xs, ys => by
    have ih := walk_append (e.track stack t).1 xs ys
    simp only [List.cons_append, walk, ih, after]
    simp

/-- To walk a run is to map it, and an empty one is no token. -/
theorem walk_ofRun (stack : List Text) (t : WideText) :
    Token.concat <$> e.walk f stack (Token.ofRun t) = e.mapRun f stack t := by
  rcases t with _ | ⟨c, t⟩
  · simp [walk, mapRun]
  · simp only [Token.ofRun, List.isEmpty_cons, Bool.false_eq_true, if_false, walk, mapRun,
      Bool.not_false, Bool.true_and]
    split_ifs <;> simp [Token.text]

/-- What counts of a state: the open elements, the text put out and the notices. -/
def State.view (s : State) : List Text × WideText × List Notice :=
  (s.stack, s.output.reverse.flatten, s.notices.reverse)

theorem foldlM_mapPiece : ∀ (ps : List Piece) (s : State),
    State.view <$> ps.foldlM (e.mapPiece f) s =
      (fun ts => (e.after s.stack (ps.flatMap Piece.tokens), s.view.2.1 ++ Token.concat ts,
        s.view.2.2 ++ e.noticesIn s.stack (ps.flatMap Piece.tokens)))
      <$> e.walk f s.stack (ps.flatMap Piece.tokens)
  | [], s => by simp [walk, after, noticesIn, State.view]
  | q :: ps, s => by
    have ih := fun run => foldlM_mapPiece ps ⟨(e.track s.stack q.tag).1,
      q.tag :: run :: s.output, (e.track s.stack q.tag).2.toList ++ s.notices⟩
    have hnotice : (e.track s.stack q.tag).2.toList.reverse = (e.track s.stack q.tag).2.toList := by
      rcases (e.track s.stack q.tag).2 with _ | n <;> rfl
    simp only [List.foldlM_cons, mapPiece, bind_assoc, pure_bind, map_bind, ih, List.flatMap_cons,
      Piece.tokens, List.append_assoc, walk_append, after_append, noticesIn_append, after_ofRun,
      noticesIn_ofRun, ← walk_ofRun, bind_map_left, after, noticesIn, walk, List.singleton_append,
      List.nil_append]
    refine bind_congr fun a => ?_
    simp only [map_pure, bind_pure_comp]
    refine congrFun (congrArg _ (funext fun ts => ?_)) _
    simp [State.view, Token.text, hnotice]

/-- The note that a page ends inside a tag, if it does. -/
def unterminated (page : WideText) : List Notice :=
  let tail := (Pieces.ofText page).tail
  if tail.isEmpty then [] else [.unterminated (page.length - tail.length)]

/-- What `mapText` puts out is the tokens walked and the tail. -/
theorem mapText_eq (page : WideText) : e.mapText f page =
    (fun ts => (Token.concat ts ++ (Pieces.ofText page).tail,
      e.noticesIn [] (Pieces.ofText page).tokens ++ unterminated page))
    <$> e.walk f [] (Pieces.ofText page).tokens := by
  set p := Pieces.ofText page with hp
  have hview : e.mapText f page = (State.view <$> p.pieces.foldlM (e.mapPiece f) {}) >>= fun v =>
      (fun last => (v.2.1 ++ last ++ p.tail, v.2.2 ++ unterminated page))
        <$> e.mapRun f v.1 p.last := by
    rw [bind_map_left]
    simp only [mapText, ← hp, map_eq_pure_bind]
    refine bind_congr fun s => bind_congr fun last => ?_
    simp [State.view, unterminated, ← hp]
  rw [hview, foldlM_mapPiece, Pieces.tokens, walk_append, bind_map_left, map_bind]
  refine bind_congr fun a => ?_
  simp only [← walk_ofRun, noticesIn_append, noticesIn_ofRun, List.append_nil,
    Token.concat_append, State.view, map_eq_pure_bind, bind_assoc, pure_bind]
  refine bind_congr fun b => ?_
  simp

end Monadic

end Phrasebook.Html.Elements
