import Phrasebook.Proofs.Mapping
import Mathlib.Data.List.Infix
import Mathlib.Logic.ExistsUnique

/-!
# Runs and tags in turn

A page is runs and tags in turn, from a run to a run, and then a tail, in one way only. To map it is
to go through the runs from the first to the last, each with the tags before it (`Pieces.placed`):
the function is called on a run that is not empty and is inside an allowed element, and on no other.
Its answers are put between the tags, and behind them comes the tail (`mapText_of_cut`). All of this
holds for functions with effects, so that there is one call for each such run, and they are made in
the order of the page (`mapM_tracing`).
-/

namespace Phrasebook.Html

namespace Pieces

/-- The runs of a page in order, one more than there are tags. -/
def runs (p : Pieces) : List WideText :=
  p.pieces.map Piece.run ++ [p.last]

/-- The runs of a page in order, each with the tags before it. -/
def placed (p : Pieces) : List (WideText × List WideText) :=
  p.runs.zip p.tags.inits

@[simp]
theorem runs_cons (q : Piece) (p : Pieces) : (p.cons q).runs = q.run :: p.runs := rfl

@[simp]
theorem tags_cons (q : Piece) (p : Pieces) : (p.cons q).tags = q.tag :: p.tags := rfl

theorem existsUnique_cut (page : WideText) : ∃! p : Pieces, p.Cut ∧ p.toText = page := by
  refine ⟨ofText page, cut_ofText page, ?_⟩
  rintro p ⟨hcut, rfl⟩
  exact (ofText_toText hcut).symm

end Pieces

/-- Runs and tags in turn, beginning with a run. -/
def weave : List WideText → List WideText → WideText
  | run :: runs, tag :: tags => run ++ (tag ++ weave runs tags)
  | runs, _ => runs.flatten

namespace Elements

/-- The elements that are open behind some tags. -/
def opened (e : Elements) (tags : List WideText) : List Text :=
  tags.foldl (fun stack tag => (e.track stack tag).1) []

@[simp]
theorem opened_nil (e : Elements) : e.opened [] = [] := rfl

theorem opened_concat (e : Elements) (tags : List WideText) (tag : WideText) :
    e.opened (tags ++ [tag]) = (e.track (e.opened tags) tag).1 := by
  rw [opened, List.foldl_append]
  rfl

/-- A run behind some tags is handed to the function: it is not empty, and an element that is open
there is allowed. -/
def Hands (e : Elements) (run : WideText) (tags : List WideText) : Prop :=
  run ≠ [] ∧ ∃ name ∈ e.opened tags, name ∈ e.allowed

instance (e : Elements) (run : WideText) (tags : List WideText) : Decidable (e.Hands run tags) :=
  inferInstanceAs (Decidable (_ ∧ _))

/-- The runs of a page that are handed to the function, in order. -/
def handed (e : Elements) (p : Pieces) : List WideText :=
  (p.placed.filter fun q => e.Hands q.1 q.2).map Prod.fst

section Monadic

variable {m : Type → Type} [Monad m] (e : Elements) (f : WideText → m WideText)

/-- What becomes of a run with the tags before it. -/
def mapPlaced (q : WideText × List WideText) : m WideText :=
  if e.Hands q.1 q.2 then f q.1 else pure q.1

/-- The function, which also notes what it is called on. -/
def tracing (f : WideText → m WideText) (run : WideText) : StateT (List WideText) m WideText :=
  fun seen => (·, seen ++ [run]) <$> f run

theorem mapRun_eq_mapPlaced (run : WideText) (tags : List WideText) :
    e.mapRun f (e.opened tags) run = e.mapPlaced f (run, tags) := by
  have hands : (!run.isEmpty && e.allows (e.opened tags)) = true ↔ e.Hands run tags := by
    simp [Hands, allows]
  simp only [mapRun, mapPlaced, hands]

variable [LawfulMonad m]

/-- A walk behind some tags goes through the runs, and puts what becomes of them between the tags.
-/
theorem concat_walk_tokens (p : Pieces) (done : List WideText) :
    Token.concat <$> e.walk f (e.opened done) p.tokens
      = (weave · p.tags) <$> (p.runs.zip (p.tags.inits.map (done ++ ·))).mapM (e.mapPlaced f) := by
  induction p using Pieces.cons_induction generalizing done with
  | nil last tail =>
    have htokens : (⟨[], last, tail⟩ : Pieces).tokens = Token.ofRun last := rfl
    rw [htokens, walk_ofRun, mapRun_eq_mapPlaced]
    simp [Pieces.runs, Pieces.tags, weave]
  | cons q p ih =>
    specialize ih (done ++ [q.tag])
    rw [opened_concat] at ih
    have hinits : (q.tag :: p.tags).inits.map (done ++ ·)
        = done :: p.tags.inits.map (done ++ [q.tag] ++ ·) := by
      simp
    calc Token.concat <$> e.walk f (e.opened done) (p.cons q).tokens
        = (Token.concat <$> e.walk f (e.opened done) (Token.ofRun q.run)) >>= fun run =>
            (fun rest => run ++ (q.tag ++ rest))
              <$> (Token.concat <$> e.walk f (e.track (e.opened done) q.tag).1 p.tokens) := by
          rw [Pieces.tokens_cons, walk_append, after_ofRun]
          simp [walk, Token.text]
      _ = e.mapPlaced f (q.run, done) >>= fun run =>
            (fun outs => weave (run :: outs) (q.tag :: p.tags))
              <$> (p.runs.zip (p.tags.inits.map (done ++ [q.tag] ++ ·))).mapM (e.mapPlaced f) := by
          rw [walk_ofRun, mapRun_eq_mapPlaced, ih]
          simp [weave]
      _ = (weave · (p.cons q).tags)
            <$> ((p.cons q).runs.zip ((p.cons q).tags.inits.map (done ++ ·))).mapM
              (e.mapPlaced f) := by
          rw [Pieces.tags_cons, Pieces.runs_cons, hinits, List.zip_cons_cons, List.mapM_cons]
          simp

theorem mapText_of_cut {p : Pieces} (hp : p.Cut) : e.mapText f p.toText
    = (fun outs => (weave outs p.tags ++ p.tail, e.noticesIn [] p.tokens ++ unterminated p.toText))
      <$> p.placed.mapM (e.mapPlaced f) := by
  have hwalk : Token.concat <$> e.walk f [] p.tokens
      = (weave · p.tags) <$> p.placed.mapM (e.mapPlaced f) := by
    simpa [Pieces.placed] using concat_walk_tokens e f p []
  have h := congrArg (Functor.map fun text =>
    (text ++ p.tail, e.noticesIn [] p.tokens ++ unterminated p.toText)) hwalk
  rw [mapText_eq, Pieces.ofText_toText hp]
  simpa only [Functor.map_map] using h

omit [LawfulMonad m] in
@[simp]
theorem run_tracing (run : WideText) (seen : List WideText) :
    (tracing f run).run seen = (·, seen ++ [run]) <$> f run := rfl

/-- The function is called on the runs that are handed to it, on each of them once and in order. -/
theorem mapM_tracing (qs : List (WideText × List WideText)) (seen : List WideText) :
    (qs.mapM (e.mapPlaced (tracing f))).run seen
      = (·, seen ++ (qs.filter fun q => e.Hands q.1 q.2).map Prod.fst)
        <$> qs.mapM (e.mapPlaced f) := by
  induction qs generalizing seen with
  | nil => simp
  | cons q qs ih =>
    rw [List.mapM_cons, List.mapM_cons]
    by_cases h : e.Hands q.1 q.2
    · simp [mapPlaced, h, ih]
    · simp [mapPlaced, h, ih]

end Monadic

theorem unterminated_notMem_noticesIn (e : Elements) (offset : Nat) : ∀ (stack : List Text)
    (ts : List Token), .unterminated offset ∉ e.noticesIn stack ts
  | _, [] => by simp [noticesIn]
  | stack, .run _ :: ts => unterminated_notMem_noticesIn e offset stack ts
  | stack, .tag t :: ts => by
    have ih := unterminated_notMem_noticesIn e offset (e.track stack t).1 ts
    have htag : (e.track stack t).2 ≠ some (.unterminated offset) := by
      unfold track
      split
      · simp
      · simp
      · split_ifs <;> simp
    rw [noticesIn, List.mem_append, not_or]
    exact ⟨by simpa using htag, ih⟩

/-- There is one way to cut a page. To map the page, whatever the effects of the function, is to go
through the runs in order and to put what becomes of them between the tags and before the tail; the
function is called once on each run that is handed to it and on no other. Behind the notes on the
tags, and only there, it is noted that the page ends inside a tag, if there is a tail. -/
theorem mapText_eq_weave (page : WideText) : (∃! p : Pieces, p.Cut ∧ p.toText = page) ∧
    ∀ (e : Elements) (p : Pieces), p.Cut → p.toText = page →
      (∀ offset, .unterminated offset ∉ e.noticesIn [] p.tokens) ∧
        ∀ (m : Type → Type) [Monad m] [LawfulMonad m] (f : WideText → m WideText),
          e.mapText f page = (fun outs => (weave outs p.tags ++ p.tail, e.noticesIn [] p.tokens
              ++ if p.tail = [] then [] else [.unterminated (page.length - p.tail.length)]))
            <$> p.placed.mapM (e.mapPlaced f)
          ∧ ∀ seen, (e.mapText (tracing f) page).run seen
            = (·, seen ++ e.handed p) <$> e.mapText f page := by
  refine ⟨Pieces.existsUnique_cut page, ?_⟩
  rintro e p hp rfl
  refine ⟨fun offset => unterminated_notMem_noticesIn e offset [] p.tokens,
    fun m _ _ f => ⟨?_, fun seen => ?_⟩⟩
  · rw [mapText_of_cut e f hp, unterminated, Pieces.ofText_toText hp]
    simp only [List.isEmpty_iff]
  · rw [mapText_of_cut e f hp, mapText_of_cut e (tracing f) hp, StateT.run_map, mapM_tracing]
    simp [handed, Pieces.placed]

/-- Puts as many marks behind a run as the number says, and adds one to it. -/
def mark (run : WideText) : StateM Nat WideText := fun n =>
  (run ++ List.replicate n (.char '!'), n + 1)

/-- Two cells, with runs around them that are not handed to the function, and a tail. -/
theorem mapText_eq_weave_cells :
    let page := WideText.ofString "x<td>ab</td>c<b>d</b><i"
    let p : Pieces := ⟨[⟨.ofString "x", .ofString "<td>"⟩, ⟨.ofString "ab", .ofString "</td>"⟩,
      ⟨.ofString "c", .ofString "<b>"⟩, ⟨.ofString "d", .ofString "</b>"⟩], [], .ofString "<i"⟩
    let out := WideText.ofString "x<td>ab!</td>c<b>d!!</b><i"
    p.Cut ∧ p.toText = page
      ∧ standard.mapText mark page 1 = ((out, [.unterminated 21]), 3)
      ∧ (standard.mapText (tracing mark) page).run [] 1
        = (((out, [.unterminated 21]), [.ofString "ab", .ofString "d"]), 3) := by
  intro page p out
  have hp : p.Cut := by decide
  have htext : p.toText = page := by decide
  obtain ⟨hmap, htrace⟩ :=
    ((mapText_eq_weave page).2 standard p hp htext).2 (StateM Nat) mark
  have hone : standard.mapText mark page 1 = ((out, [.unterminated 21]), 3) := by
    rw [hmap]
    rfl
  refine ⟨hp, htext, hone, ?_⟩
  rw [htrace]
  exact congrArg (fun out : (WideText × List Notice) × Nat =>
    ((out.1, ["ab", "d"].map WideText.ofString), out.2)) hone

end Elements

end Phrasebook.Html
