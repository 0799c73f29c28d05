import Phrasebook.Proofs.Counters
import Phrasebook.Proofs.Runs

/-!
# Where characters stand

For each name there is one counter: an opening tag adds one to it, a closing tag takes one away if
it can, and no other tag changes it. Whatever tags there are, in whatever order, the counters say
how often a name is on the stack (`count_opened`).

So a tag whose name is not allowed has no effect on where the characters of a page stand, that is on
whether they are text inside an allowed element. It can be put into a page at any point that is not
inside a tag, and taken out (`standing_append_tag`).
-/

namespace Phrasebook.Html.Elements

/-! ## One counter for each name -/

/-- The number of open elements of a name behind a tag, from the number before it. -/
def countOpen (e : Elements) (name : Text) (count : Nat) (tag : WideText) : Nat :=
  match TagName.ofTag? tag with
  | none => count
  | some t =>
    if isSelfClosing tag || e.void.contains t.name then count
    else if t.name ≠ name then count
    else if t.closing then count - 1
    else count + 1

theorem countTag_eq (e : Elements) (counts : Text → Nat) (tag : WideText) (name : Text) :
    e.countTag counts tag name = e.countOpen name (counts name) tag := by
  unfold countTag effect? countOpen
  rcases TagName.ofTag? tag with _ | t
  · rfl
  · by_cases h : (isSelfClosing tag || e.void.contains t.name) = true
    · simp only [h, if_true]
    · simp only [h]
      rfl

theorem count_track_eq (e : Elements) (stack : List Text) (tag : WideText) (name : Text) :
    (e.track stack tag).1.count name = e.countOpen name (stack.count name) tag := by
  rw [count_track, countTag_eq]

theorem count_opened (e : Elements) (tags : List WideText) (name : Text) :
    (e.opened tags).count name = tags.foldl (e.countOpen name) 0 := by
  induction tags using List.reverseRecOn with
  | nil => rfl
  | append_singleton tags tag ih =>
    rw [opened_concat, count_track_eq, ih, List.foldl_append]
    rfl

theorem hands_iff (e : Elements) (run : WideText) (tags : List WideText) : e.Hands run tags
    ↔ run ≠ [] ∧ ∃ name ∈ e.allowed, 0 < tags.foldl (e.countOpen name) 0 := by
  simp only [Hands, ← count_opened, List.count_pos_iff, and_comm]

/-- The tag opens no allowed element and closes none. -/
def Indifferent (e : Elements) (tag : WideText) : Prop :=
  ∀ t, TagName.ofTag? tag = some t → t.name ∉ e.allowed ∨ t.name ∈ e.void ∨ isSelfClosing tag = true

theorem Indifferent.countOpen {e : Elements} {tag : WideText} {name : Text} (h : e.Indifferent tag)
    (hname : name ∈ e.allowed) (count : Nat) : e.countOpen name count tag = count := by
  unfold Elements.countOpen
  rcases ht : TagName.ofTag? tag with _ | t
  · rfl
  · rcases h t ht with hallowed | hvoid | hself
    · have hne : t.name ≠ name := fun heq => hallowed (heq ▸ hname)
      simp only [if_pos hne, ite_self]
    · simp [hvoid]
    · simp [hself]

/-! ## Behind open elements -/

/-- Where the characters of some tokens behind open elements stand: nothing for a character of a
tag, and for one of a run whether it is inside an allowed element. -/
def standingIn (e : Elements) : List Text → List Token → List (Option Bool)
  | _, [] => []
  | stack, .run t :: ts =>
    List.replicate t.length (some (e.allows stack)) ++ e.standingIn stack ts
  | stack, .tag t :: ts => List.replicate t.length none ++ e.standingIn (e.track stack t).1 ts

/-- Where the characters of a page behind open elements stand. -/
def standingFrom (e : Elements) (stack : List Text) (page : WideText) : List (Option Bool) :=
  e.standingIn stack (Pieces.ofText page).tokens
    ++ List.replicate (Pieces.ofText page).tail.length none

/-- Where each character of a page stands. -/
def standing (e : Elements) (page : WideText) : List (Option Bool) :=
  e.standingFrom [] page

section Behind

variable (e : Elements)

theorem standingIn_ofRun (stack : List Text) (t : WideText) (ts : List Token) :
    e.standingIn stack (Token.ofRun t ++ ts)
      = List.replicate t.length (some (e.allows stack)) ++ e.standingIn stack ts := by
  rcases t with _ | ⟨c, t⟩ <;> rfl

theorem standingFrom_run_tail (stack : List Text) {run tail : WideText} (hr : .char '<' ∉ run)
    (ht : IsTail tail) : e.standingFrom stack (run ++ tail)
      = List.replicate run.length (some (e.allows stack)) ++ List.replicate tail.length none := by
  have h := standingIn_ofRun e stack run []
  rw [List.append_nil] at h
  rw [standingFrom, Pieces.ofText_run_tail hr ht]
  simp only [Pieces.tokens, List.flatMap_nil, List.nil_append, h, standingIn, List.append_nil]

theorem standingFrom_run_tag (stack : List Text) {run tag : WideText} (hr : .char '<' ∉ run)
    (ht : IsTag tag) (rest : WideText) : e.standingFrom stack (run ++ (tag ++ rest))
      = List.replicate run.length (some (e.allows stack))
        ++ (List.replicate tag.length none ++ e.standingFrom (e.track stack tag).1 rest) := by
  rw [standingFrom, Pieces.ofText_run_tag hr ht, Pieces.tokens_cons, standingIn_ofRun, standingIn,
    List.append_assoc, List.append_assoc]
  rfl

theorem standingFrom_tag (stack : List Text) {tag : WideText} (ht : IsTag tag) (rest : WideText) :
    e.standingFrom stack (tag ++ rest)
      = List.replicate tag.length none ++ e.standingFrom (e.track stack tag).1 rest :=
  standingFrom_run_tag e stack List.not_mem_nil ht rest

theorem standingFrom_run (stack : List Text) {run : WideText} (hr : .char '<' ∉ run)
    (page : WideText) : e.standingFrom stack (run ++ page)
      = List.replicate run.length (some (e.allows stack)) ++ e.standingFrom stack page := by
  have hboth : ∀ {run' : WideText}, .char '<' ∉ run' → .char '<' ∉ run ++ run' :=
    fun hr' => by simp [hr, hr']
  rcases page_cases page with ⟨run', tail, rfl, hr', ht⟩ | ⟨run', tag, rest, rfl, hr', ht⟩
  · rw [← List.append_assoc, standingFrom_run_tail e stack (hboth hr') ht,
      standingFrom_run_tail e stack hr' ht, List.length_append, List.replicate_add,
      List.append_assoc]
  · rw [← List.append_assoc, standingFrom_run_tag e stack (hboth hr') ht,
      standingFrom_run_tag e stack hr' ht, List.length_append, List.replicate_add,
      List.append_assoc]

/-- A page that is not left inside a tag can be read apart from what comes behind it. -/
theorem standingFrom_append {x : WideText} (hx : (Pieces.ofText x).tail = []) (stack : List Text)
    (y : WideText) : e.standingFrom stack (x ++ y)
      = e.standingFrom stack x ++ e.standingFrom (e.after stack (Pieces.ofText x).tokens) y := by
  induction x using page_induction generalizing stack with
  | run_tail run tail hr ht =>
    rw [Pieces.ofText_run_tail hr ht] at hx
    obtain rfl : tail = [] := hx
    have hrun : Pieces.ofText (run ++ []) = ⟨[], run, []⟩ := Pieces.ofText_run_tail hr ht
    rw [standingFrom_run_tail e stack hr ht, hrun, List.append_nil, standingFrom_run e stack hr]
    simp [Pieces.tokens]
  | run_tag run tag rest hr ht ih =>
    rw [Pieces.ofText_run_tag hr ht] at hx
    have hafter : e.after stack (Pieces.ofText (run ++ (tag ++ rest))).tokens
        = e.after (e.track stack tag).1 (Pieces.ofText rest).tokens := by
      rw [Pieces.ofText_run_tag hr ht, Pieces.tokens_cons, after_append, after_ofRun]
      rfl
    rw [hafter, standingFrom_run_tag e stack hr ht, List.append_assoc run, List.append_assoc tag,
      standingFrom_run_tag e stack hr ht, ih hx]
    simp only [List.append_assoc]

/-- Where characters stand depends on how often each allowed name is on the stack, and on no
more. -/
theorem standingIn_congr : ∀ (ts : List Token) {s s' : List Text},
    (∀ name ∈ e.allowed, s.count name = s'.count name) →
      e.standingIn s ts = e.standingIn s' ts
  | [], _, _, _ => rfl
  | .run t :: ts, s, s', h => by
    have hallows : e.allows s = e.allows s' := by
      rw [Bool.eq_iff_iff, allows_eq, allows_eq, anyOpen, anyOpen, List.any_eq_true,
        List.any_eq_true]
      refine exists_congr fun name => and_congr_right fun hname => ?_
      rw [h name hname]
    rw [standingIn, standingIn, hallows, standingIn_congr ts h]
  | .tag t :: ts, s, s', h => by
    have htrack : ∀ name ∈ e.allowed, (e.track s t).1.count name = (e.track s' t).1.count name := by
      intro name hname
      rw [count_track_eq, count_track_eq, h name hname]
    rw [standingIn, standingIn, standingIn_congr ts htrack]

theorem length_standingIn : ∀ (ts : List Token) (stack : List Text),
    (e.standingIn stack ts).length = (Token.concat ts).length
  | [], _ => rfl
  | .run t :: ts, stack => by
    simp [standingIn, Token.text, length_standingIn ts]
  | .tag t :: ts, stack => by
    simp [standingIn, Token.text, length_standingIn ts]

theorem length_standing (page : WideText) : (e.standing page).length = page.length := by
  conv_rhs => rw [← (Pieces.cut_ofText page).2, ← Pieces.concat_tokens]
  simp [standing, standingFrom, length_standingIn]

end Behind

/-! ## Putting tags in and taking them out -/

/-- A function on characters, where they stand inside an allowed element. -/
def onStanding (g : CodePoint → CodePoint) (c : CodePoint) (place : Option Bool) : CodePoint :=
  if place = some true then g c else c

theorem zipWith_onStanding_replicate (g : CodePoint → CodePoint) (place : Option Bool)
    (t : WideText) : List.zipWith (onStanding g) t (List.replicate t.length place)
      = if place = some true then t.map g else t := by
  induction t with
  | nil => simp
  | cons c t ih =>
    rw [List.length_cons, List.replicate_succ, List.zipWith_cons_cons, ih, onStanding]
    split_ifs <;> rfl

theorem concat_mapTokens_map (e : Elements) (g : CodePoint → CodePoint) : ∀ (ts : List Token)
    (stack : List Text), Token.concat (e.mapTokens (List.map g) stack ts)
      = List.zipWith (onStanding g) (Token.concat ts) (e.standingIn stack ts)
  | [], _ => rfl
  | .run t :: ts, stack => by
    have ih := concat_mapTokens_map e g ts stack
    simp only [mapTokens, Token.concat_cons, Token.text, standingIn, ih]
    rw [List.zipWith_append (by simp), zipWith_onStanding_replicate]
    simp
  | .tag t :: ts, stack => by
    have ih := concat_mapTokens_map e g ts (e.track stack t).1
    simp only [mapTokens, Token.concat_cons, Token.text, standingIn, ih]
    rw [List.zipWith_append (by simp), zipWith_onStanding_replicate]
    simp

theorem mapWith_map (e : Elements) (g : CodePoint → CodePoint) (page : WideText) :
    e.mapWith (List.map g) page = List.zipWith (onStanding g) page (e.standing page) := by
  have hpage : page = Token.concat (Pieces.ofText page).tokens ++ (Pieces.ofText page).tail := by
    rw [Pieces.concat_tokens, (Pieces.cut_ofText page).2]
  calc e.mapWith (List.map g) page
      = List.zipWith (onStanding g) (Token.concat (Pieces.ofText page).tokens)
          (e.standingIn [] (Pieces.ofText page).tokens)
        ++ List.zipWith (onStanding g) (Pieces.ofText page).tail
          (List.replicate (Pieces.ofText page).tail.length none) := by
        rw [mapWith_eq, concat_mapTokens_map, zipWith_onStanding_replicate, if_neg (by simp)]
    _ = List.zipWith (onStanding g)
          (Token.concat (Pieces.ofText page).tokens ++ (Pieces.ofText page).tail)
          (e.standing page) :=
        (List.zipWith_append (length_standingIn e _ _).symm).symm
    _ = List.zipWith (onStanding g) page (e.standing page) := by rw [← hpage]

/-- A tag that opens and closes no allowed element makes room for itself, at a point that is not
inside a tag, and does nothing else. -/
theorem standing_append_tag (e : Elements) {x tag : WideText} (hx : (Pieces.ofText x).tail = [])
    (ht : IsTag tag) (hind : e.Indifferent tag) (y : WideText) : ∃ behind,
      e.standing (x ++ y) = e.standing x ++ behind
        ∧ e.standing (x ++ (tag ++ y))
          = e.standing x ++ (List.replicate tag.length none ++ behind) := by
  set stack := e.after [] (Pieces.ofText x).tokens
  have hsame : e.standingFrom (e.track stack tag).1 y = e.standingFrom stack y := by
    rw [standingFrom, standingFrom, standingIn_congr e _ fun name hname => ?_]
    rw [count_track_eq, hind.countOpen hname]
  refine ⟨e.standingFrom stack y, standingFrom_append e hx [] y, ?_⟩
  rw [standing, standingFrom_append e hx [] (tag ++ y), standingFrom_tag e _ ht, hsame]
  rfl

/-- The point before a tag of a page is not inside a tag. -/
theorem tail_ofText_of_cut {before behind : List Piece} {q : Piece} {last tail : WideText}
    (h : (⟨before ++ q :: behind, last, tail⟩ : Pieces).Cut) :
    (Pieces.ofText (⟨before, q.run, []⟩ : Pieces).toText).tail = [] := by
  have hq := h.pieces q (List.mem_append_right _ List.mem_cons_self)
  rw [Pieces.ofText_toText
    ⟨fun r hr => h.pieces r (List.mem_append_left _ hr), hq.1, .inl rfl⟩]

/-- A name is on the stack as often as its counter says, so the counters of the allowed names say
which runs are handed to the function. Where the characters of a page stand, that is which of them a
function on characters changes, is the same with and without a tag that opens and closes no allowed
element: when it is put in at a point that is not inside a tag, and when it is taken out. -/
theorem stack_eq_counters (e : Elements) :
    (∀ tags name, (e.opened tags).count name = tags.foldl (e.countOpen name) 0)
      ∧ (∀ run tags, e.Hands run tags
        ↔ run ≠ [] ∧ ∃ name ∈ e.allowed, 0 < tags.foldl (e.countOpen name) 0)
      ∧ (∀ g page,
        e.mapWith (List.map g) page = List.zipWith (onStanding g) page (e.standing page))
      ∧ (∀ x tag y : WideText, (Pieces.ofText x).tail = [] → IsTag tag → e.Indifferent tag →
        e.standing (x ++ (tag ++ y)) = (e.standing (x ++ y)).take x.length
          ++ (List.replicate tag.length none ++ (e.standing (x ++ y)).drop x.length))
      ∧ ∀ before q behind last tail, (⟨before ++ q :: behind, last, tail⟩ : Pieces).Cut →
        e.Indifferent q.tag →
          let page := (⟨before ++ q :: behind, last, tail⟩ : Pieces).toText
          let x := (⟨before, q.run, []⟩ : Pieces).toText
          let y := (⟨behind, last, tail⟩ : Pieces).toText
          page = x ++ (q.tag ++ y) ∧ e.standing (x ++ y) = (e.standing page).take x.length
            ++ (e.standing page).drop (x.length + q.tag.length) := by
  refine ⟨count_opened e, hands_iff e, mapWith_map e, fun x tag y hx ht hind => ?_, ?_⟩
  · obtain ⟨behind, hxy, htag⟩ := standing_append_tag e hx ht hind y
    rw [htag, hxy, ← length_standing e x, List.take_left, List.drop_left]
  · intro before q behind last tail hcut hind page x y
    have hpage : page = x ++ (q.tag ++ y) := by simp [page, x, y, Pieces.toText]
    have ht := (hcut.pieces q (List.mem_append_right _ List.mem_cons_self)).2
    obtain ⟨rest, hxy, htag⟩ := standing_append_tag e (tail_ofText_of_cut hcut) ht hind y
    refine ⟨hpage, ?_⟩
    rw [hpage, htag, hxy, ← List.drop_drop, ← length_standing e x, List.take_left, List.drop_left,
      List.drop_left' (by simp)]

/-- A paragraph that was never opened is closed between two letters, in elements that are not closed
in the order in which they were opened. -/
theorem stack_eq_counters_misnested :
    let before : List Piece := [⟨[], .ofString "<td>"⟩, ⟨[], .ofString "<b>"⟩]
    let q : Piece := ⟨.ofString "a", .ofString "</p>"⟩
    let behind : List Piece :=
      [⟨.ofString "e", .ofString "</td>"⟩, ⟨.ofString "c", .ofString "</b>"⟩]
    let page := WideText.ofString "<td><b>a</p>e</td>c</b>d"
    let without := WideText.ofString "<td><b>ae</td>c</b>d"
    (Pieces.ofText (.ofString "<td><b>a")).tail = [] ∧ IsTag q.tag ∧ standard.Indifferent q.tag
      ∧ (⟨before ++ q :: behind, .ofString "d", []⟩ : Pieces).Cut
      ∧ standard.standing page = (standard.standing without).take 8
          ++ (List.replicate 4 none ++ (standard.standing without).drop 8)
      ∧ standard.standing without
        = (standard.standing page).take 8 ++ (standard.standing page).drop 12
      ∧ (standard.standing without).drop 7
        = [some true, some true, none, none, none, none, none, some true, none, none, none, none,
          some false] := by
  intro before q behind page without
  have hx : (Pieces.ofText (.ofString "<td><b>a")).tail = [] := by decide +kernel
  have htag : IsTag q.tag := by decide
  have hind : standard.Indifferent q.tag := by
    have hname : TagName.ofTag? q.tag = some ⟨true, "p".toList⟩ := by decide
    intro t ht
    obtain rfl : (⟨true, "p".toList⟩ : TagName) = t := Option.some.inj (hname.symm.trans ht)
    exact .inl (by decide)
  have hcut : (⟨before ++ q :: behind, .ofString "d", []⟩ : Pieces).Cut := by decide
  obtain ⟨-, -, -, hput, htake⟩ := stack_eq_counters standard
  exact ⟨hx, htag, hind, hcut, hput _ _ (.ofString "e</td>c</b>d") hx htag hind,
    (htake before q behind (.ofString "d") [] hcut hind).2, by decide +kernel⟩

end Phrasebook.Html.Elements
