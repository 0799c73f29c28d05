import Phrasebook.Proofs.Walk

/-!
# Mapping a page twice

To map the text of a page by a function with no effects is to map its tokens (`mapWith_eq`). As long
as the function makes no run empty and puts no `<` into one, the mapped tokens are those of the
mapped page, so that a second function finds the same tags, the same tail and the mapped runs, and
mapping by both is mapping by one after the other (`mapWith_laws`).
-/

namespace Phrasebook.Html

/-- The tags of a page in order. -/
def Pieces.tags (p : Pieces) : List WideText :=
  p.pieces.map Piece.tag

def Token.tag? : Token → Option WideText
  | run _ => none
  | tag t => some t

theorem Token.filterMap_tag?_ofRun (t : WideText) : (Token.ofRun t).filterMap Token.tag? = [] := by
  rcases t with _ | ⟨c, t⟩ <;> rfl

theorem Pieces.tags_eq (p : Pieces) : p.tags = p.tokens.filterMap Token.tag? := by
  induction p using cons_induction with
  | nil last tail => simp [tags, tokens, Token.filterMap_tag?_ofRun]
  | cons q p ih =>
    rw [tokens_cons, List.filterMap_append, Token.filterMap_tag?_ofRun, List.nil_append,
      List.filterMap_cons, ← ih]
    rfl

namespace Elements

/-- The page with a function applied to the text of allowed elements. -/
def mapWith (e : Elements) (f : WideText → WideText) (page : WideText) : WideText :=
  (Id.run (e.mapText (fun t => pure (f t)) page)).1

/-- Leaves a run as it is, and adds it to those seen. -/
def record (run : WideText) : StateM (List WideText) WideText := fun seen =>
  (run, seen ++ [run])

/-- The runs of a page that are handed to a function, in order. -/
def runsSeen (e : Elements) (page : WideText) : List WideText :=
  (e.mapText record page []).2

/-! ## Tokens -/

/-- The tokens behind open elements, with a function applied to each run inside an allowed one. -/
def mapTokens (e : Elements) (f : WideText → WideText) : List Text → List Token → List Token
  | _, [] => []
  | stack, .run t :: ts => .run (if e.allows stack then f t else t) :: e.mapTokens f stack ts
  | stack, .tag t :: ts => .tag t :: e.mapTokens f (e.track stack t).1 ts

/-- The runs among the tokens behind open elements that are inside an allowed one. -/
def runsIn (e : Elements) : List Text → List Token → List WideText
  | _, [] => []
  | stack, .run t :: ts => (if e.allows stack then [t] else []) ++ e.runsIn stack ts
  | stack, .tag t :: ts => e.runsIn (e.track stack t).1 ts

section Tokens

variable (e : Elements) (f g : WideText → WideText)

theorem walk_pure {m : Type → Type} [Monad m] [LawfulMonad m] : ∀ (stack : List Text)
    (ts : List Token),
    e.walk (m := m) (fun t => pure (f t)) stack ts = pure (e.mapTokens f stack ts)
  | _, [] => rfl
  | stack, .run t :: ts => by
    rw [walk, walk_pure stack ts, mapTokens]
    split_ifs <;> simp
  | stack, .tag t :: ts => by
    rw [walk, walk_pure (e.track stack t).1 ts, mapTokens]
    simp

theorem walk_record : ∀ (stack : List Text) (ts : List Token) (seen : List WideText),
    e.walk record stack ts seen = (ts, seen ++ e.runsIn stack ts)
  | _, [], seen => by
    rw [runsIn, List.append_nil]
    rfl
  | stack, .run t :: ts, seen => by
    rw [walk, runsIn]
    split_ifs
    · have ih := walk_record stack ts (seen ++ [t])
      rw [List.append_assoc] at ih
      exact congrArg (fun s : List Token × List WideText => (Token.run t :: s.1, s.2)) ih
    · have ih := walk_record stack ts seen
      exact congrArg (fun s : List Token × List WideText => (Token.run t :: s.1, s.2)) ih
  | stack, .tag t :: ts, seen => by
    have ih := walk_record (e.track stack t).1 ts seen
    exact congrArg (fun s : List Token × List WideText => (Token.tag t :: s.1, s.2)) ih

theorem mapTokens_id : ∀ (stack : List Text) (ts : List Token), e.mapTokens id stack ts = ts
  | _, [] => rfl
  | stack, .run t :: ts => by rw [mapTokens, mapTokens_id stack ts, id, ite_self]
  | stack, .tag t :: ts => by rw [mapTokens, mapTokens_id (e.track stack t).1 ts]

theorem mapTokens_mapTokens : ∀ (stack : List Text) (ts : List Token),
    e.mapTokens g stack (e.mapTokens f stack ts) = e.mapTokens (g ∘ f) stack ts
  | _, [] => rfl
  | stack, .run t :: ts => by
    simp only [mapTokens, mapTokens_mapTokens stack ts]
    split_ifs <;> rfl
  | stack, .tag t :: ts => by
    simp only [mapTokens, mapTokens_mapTokens (e.track stack t).1 ts]

theorem filterMap_tag?_mapTokens : ∀ (stack : List Text) (ts : List Token),
    (e.mapTokens f stack ts).filterMap Token.tag? = ts.filterMap Token.tag?
  | _, [] => rfl
  | stack, .run _ :: ts => filterMap_tag?_mapTokens stack ts
  | stack, .tag t :: ts =>
    congrArg (t :: ·) (filterMap_tag?_mapTokens (e.track stack t).1 ts)

theorem runsIn_mapTokens : ∀ (stack : List Text) (ts : List Token),
    e.runsIn stack (e.mapTokens f stack ts) = (e.runsIn stack ts).map f
  | _, [] => rfl
  | stack, .run t :: ts => by
    simp only [mapTokens, runsIn, runsIn_mapTokens stack ts, List.map_append]
    split_ifs <;> rfl
  | stack, .tag t :: ts => by
    simp only [mapTokens, runsIn, runsIn_mapTokens (e.track stack t).1 ts]

variable {f}

/-- Runs that are handed to a function are not empty and hold no `<`. -/
theorem mem_runsIn : ∀ {ts : List Token} (stack : List Text), Token.Apart ts →
    ∀ t ∈ e.runsIn stack ts, t ≠ [] ∧ .char '<' ∉ t
  | [], _, _, t, ht => absurd ht (by simp [runsIn])
  | .tag u :: ts, stack, h, t, ht => mem_runsIn (e.track stack u).1 h.2 t ht
  | .run u :: ts, stack, h, t, ht => by
    obtain ⟨hne, hlt, -, hts⟩ := h
    rcases List.mem_append.1 ht with ht | ht
    · split_ifs at ht
      · rw [List.mem_singleton.1 ht]
        exact ⟨hne, hlt⟩
      · cases ht
    · exact mem_runsIn stack hts t ht

/-- Tokens stay apart if no run that is handed to the function becomes empty or gets a `<`. -/
theorem apart_mapTokens : ∀ {ts : List Token} (stack : List Text),
    (∀ t ∈ e.runsIn stack ts, f t ≠ [] ∧ .char '<' ∉ f t) → Token.Apart ts →
      Token.Apart (e.mapTokens f stack ts)
  | [], _, _, _ => trivial
  | .tag t :: ts, stack, hf, h => ⟨h.1, apart_mapTokens (e.track stack t).1 hf h.2⟩
  | .run t :: ts, stack, hf, h => by
    obtain ⟨hne, hlt, hhead, hts⟩ := h
    have hrun : (if e.allows stack then f t else t) ≠ []
        ∧ .char '<' ∉ (if e.allows stack then f t else t) := by
      split_ifs with hallows
      · exact hf t (by simp [runsIn, hallows])
      · exact ⟨hne, hlt⟩
    refine ⟨hrun.1, hrun.2, fun u => ?_, apart_mapTokens stack (fun u hu => ?_) hts⟩
    · rcases ts with _ | ⟨v | v, ts⟩
      · simp [mapTokens]
      · exact absurd rfl (hhead v)
      · simp [mapTokens]
    · exact hf u (List.mem_append_right _ hu)

/-- The function makes of a run that is not empty and has no `<` another one. -/
def KeepsRuns (f : WideText → WideText) : Prop :=
  ∀ t, t ≠ [] → .char '<' ∉ t → f t ≠ [] ∧ .char '<' ∉ f t

end Tokens

/-! ## Pages -/

section Pages

variable (e : Elements) {f : WideText → WideText}

theorem mapWith_eq (f : WideText → WideText) (page : WideText) : e.mapWith f page =
    Token.concat (e.mapTokens f [] (Pieces.ofText page).tokens) ++ (Pieces.ofText page).tail := by
  rw [mapWith, mapText_eq, walk_pure]
  rfl

theorem runsSeen_eq (page : WideText) :
    e.runsSeen page = e.runsIn [] (Pieces.ofText page).tokens := by
  have h := walk_record e [] (Pieces.ofText page).tokens []
  rw [runsSeen, mapText_eq]
  exact congrArg Prod.snd h

/-- A mapped page is cut into the mapped tokens and the same tail, if no run that is handed to the
function becomes empty or gets a `<`. -/
theorem tokens_mapWith {page : WideText} (h : ∀ t ∈ e.runsSeen page, f t ≠ [] ∧ .char '<' ∉ f t) :
    (Pieces.ofText (e.mapWith f page)).tokens = e.mapTokens f [] (Pieces.ofText page).tokens
      ∧ (Pieces.ofText (e.mapWith f page)).tail = (Pieces.ofText page).tail := by
  have hcut := (Pieces.cut_ofText page).1
  rw [runsSeen_eq] at h
  rw [mapWith_eq]
  exact Pieces.tokens_ofText _ (apart_mapTokens e [] h hcut.apart) hcut.tail

theorem mem_runsSeen {page t : WideText} (h : t ∈ e.runsSeen page) : t ≠ [] ∧ .char '<' ∉ t := by
  rw [runsSeen_eq] at h
  exact mem_runsIn e [] (Pieces.cut_ofText page).1.apart t h

theorem KeepsRuns.tokens_mapWith (hf : KeepsRuns f) (page : WideText) :
    (Pieces.ofText (e.mapWith f page)).tokens = e.mapTokens f [] (Pieces.ofText page).tokens
      ∧ (Pieces.ofText (e.mapWith f page)).tail = (Pieces.ofText page).tail := by
  refine Elements.tokens_mapWith e fun t ht => ?_
  obtain ⟨hne, hlt⟩ := mem_runsSeen e ht
  exact hf t hne hlt

theorem mapWith_id (page : WideText) : e.mapWith id page = page := by
  rw [mapWith_eq, mapTokens_id, Pieces.concat_tokens, (Pieces.cut_ofText page).2]

/-- Mapping by the identity changes nothing. Behind a function that keeps runs, mapping goes on as
if it was one function, with the same tags and tail and with the mapped runs. -/
theorem mapWith_laws : (∀ page, e.mapWith id page = page) ∧
    ∀ f : WideText → WideText,
      (∀ t, t ≠ [] → .char '<' ∉ t → f t ≠ [] ∧ .char '<' ∉ f t) → ∀ page,
      (∀ g, e.mapWith g (e.mapWith f page) = e.mapWith (g ∘ f) page)
      ∧ (Pieces.ofText (e.mapWith f page)).tags = (Pieces.ofText page).tags
      ∧ (Pieces.ofText (e.mapWith f page)).tail = (Pieces.ofText page).tail
      ∧ e.runsSeen (e.mapWith f page) = (e.runsSeen page).map f := by
  refine ⟨mapWith_id e, fun f hf page => ?_⟩
  obtain ⟨htokens, htail⟩ := KeepsRuns.tokens_mapWith e hf page
  refine ⟨fun g => ?_, ?_, htail, ?_⟩
  · rw [mapWith_eq e g, htokens, htail, mapTokens_mapTokens, ← mapWith_eq]
  · rw [Pieces.tags_eq, Pieces.tags_eq, htokens, filterMap_tag?_mapTokens]
  · rw [runsSeen_eq, runsSeen_eq, htokens, runsIn_mapTokens]

/-- A run that is put behind a `>` and then turned round, in a page with a tail. -/
theorem mapWith_reverse_cons :
    (∀ t : WideText, t ≠ [] → .char '<' ∉ t → .char '>' :: t ≠ [] ∧ .char '<' ∉ .char '>' :: t)
    ∧ standard.mapWith List.reverse (standard.mapWith (.char '>' :: ·) (.ofString "<td>ab</td>c<b"))
      = .ofString "<td>ba></td>c<b"
    ∧ standard.runsSeen (standard.mapWith (.char '>' :: ·) (.ofString "<td>ab</td>c<b"))
      = [.ofString ">ab"] := by
  have hf : ∀ t : WideText, t ≠ [] → .char '<' ∉ t →
      .char '>' :: t ≠ [] ∧ .char '<' ∉ .char '>' :: t := by
    intro t _ ht
    simp [ht]
  let ts : List Token := [.tag (.ofString "<td>"), .run (.ofString "ab"), .tag (.ofString "</td>"),
    .run (.ofString "c")]
  have hts : Token.Apart ts :=
    ⟨by decide, by decide, by decide, by simp, by decide, by decide, by decide, by simp, trivial⟩
  have htail : IsTail (.ofString "<b") := by decide
  obtain ⟨htokens, htail⟩ := Pieces.tokens_ofText ts hts htail
  obtain ⟨hmap, -, -, hruns⟩ :=
    (mapWith_laws standard).2 (.char '>' :: ·) hf (WideText.ofString "<td>ab</td>c<b")
  have hpage : Token.concat ts ++ WideText.ofString "<b" = .ofString "<td>ab</td>c<b" := by decide
  rw [hpage] at htokens htail
  refine ⟨hf, (hmap List.reverse).trans ?_, hruns.trans ?_⟩
  · rw [mapWith_eq, htokens, htail]
    decide
  · rw [runsSeen_eq, htokens]
    decide

end Pages

end Elements

end Phrasebook.Html
