import Phrasebook.Html.Piece
import Mathlib.Data.List.Basic
import Mathlib.Tactic.SplitIfs

/-!
# How a page is cut

The pieces of a page are the only ones of their form that make up the page: no run holds a `<`, each
tag goes from a `<` to its only `>`, and the tail is a `<` with no `>` behind it (`cut_ofText`,
`ofText_toText`). The same holds of the tokens of a page, which are its runs, as far as they are not
empty, and its tags in one list (`tokens_ofText`).
-/

namespace Phrasebook.Html

/-- A text from `<` to its only `>`. -/
def IsTag (t : WideText) : Prop :=
  ∃ u, t = .char '<' :: u ++ [.char '>'] ∧ .char '>' ∉ u

/-- Nothing, or a `<` with no `>` behind it. -/
def IsTail (t : WideText) : Prop :=
  t = [] ∨ ∃ u, t = .char '<' :: u ∧ .char '>' ∉ u

theorem IsTag.ne_nil {t : WideText} (h : IsTag t) : t ≠ [] := by
  obtain ⟨u, rfl, -⟩ := h
  simp

instance (t : WideText) : Decidable (IsTag t) :=
  decidable_of_iff
    (t = .char '<' :: t.tail.dropLast ++ [.char '>'] ∧ .char '>' ∉ t.tail.dropLast) <| by
    refine ⟨fun h => ⟨_, h⟩, ?_⟩
    rintro ⟨u, rfl, hu⟩
    simpa using hu

instance (t : WideText) : Decidable (IsTail t) :=
  decidable_of_iff (t = [] ∨ t = .char '<' :: t.tail ∧ .char '>' ∉ t.tail) <| by
    refine or_congr_right ⟨fun h => ⟨_, h⟩, ?_⟩
    rintro ⟨u, rfl, hu⟩
    exact ⟨rfl, hu⟩

section Span

variable {α : Type} [DecidableEq α] {a : α} {u : List α}

theorem decide_ne_of_mem (hu : a ∉ u) : ∀ c ∈ u, decide (c ≠ a) = true := by
  intro c hc
  rw [decide_eq_true_eq]
  rintro rfl
  exact hu hc

theorem takeWhile_append_cons (hu : a ∉ u) (v : List α) :
    (u ++ a :: v).takeWhile (· ≠ a) = u := by
  rw [List.takeWhile_append_of_pos (decide_ne_of_mem hu)]
  simp

theorem dropWhile_append_cons (hu : a ∉ u) (v : List α) :
    (u ++ a :: v).dropWhile (· ≠ a) = a :: v := by
  rw [List.dropWhile_append_of_pos (decide_ne_of_mem hu)]
  simp

theorem takeWhile_of_notMem (hu : a ∉ u) : u.takeWhile (· ≠ a) = u := by
  have h : (u ++ []).takeWhile (· ≠ a) = u ++ [].takeWhile (· ≠ a) :=
    List.takeWhile_append_of_pos (decide_ne_of_mem hu)
  simpa using h

theorem dropWhile_of_notMem (hu : a ∉ u) : u.dropWhile (· ≠ a) = [] := by
  have h : (u ++ []).dropWhile (· ≠ a) = [].dropWhile (· ≠ a) :=
    List.dropWhile_append_of_pos (decide_ne_of_mem hu)
  simpa using h

end Span

section Spans

variable {run tag tail : WideText}

/-- Up to the next `<` a page that ends in a tail is its run, and then nothing is behind a `>`. -/
theorem spans_run_tail (hr : .char '<' ∉ run) (ht : IsTail tail) :
    (run ++ tail).takeWhile (· ≠ .char '<') = run ∧ (run ++ tail).dropWhile (· ≠ .char '<') = tail
      ∧ tail.dropWhile (· ≠ .char '>') = [] := by
  rcases ht with rfl | ⟨u, rfl, hu⟩
  · rw [List.append_nil]
    exact ⟨takeWhile_of_notMem hr, dropWhile_of_notMem hr, rfl⟩
  · exact ⟨takeWhile_append_cons hr u, dropWhile_append_cons hr u,
      dropWhile_of_notMem (by simpa using hu)⟩

/-- Up to the next `<` a page that begins with a run and a tag is the run, and up to the next `>`
the rest is the tag. -/
theorem spans_run_tag (hr : .char '<' ∉ run) (ht : IsTag tag) (rest : WideText) :
    (run ++ (tag ++ rest)).takeWhile (· ≠ .char '<') = run
      ∧ (run ++ (tag ++ rest)).dropWhile (· ≠ .char '<') = tag ++ rest
      ∧ (tag ++ rest).takeWhile (· ≠ .char '>') ++ [.char '>'] = tag
      ∧ (tag ++ rest).dropWhile (· ≠ .char '>') = .char '>' :: rest := by
  obtain ⟨u, rfl, hu⟩ := ht
  have hu' : .char '>' ∉ .char '<' :: u := by simpa using hu
  have hrest : .char '<' :: u ++ [.char '>'] ++ rest = .char '<' :: u ++ .char '>' :: rest := by
    simp
  rw [hrest, takeWhile_append_cons hu', dropWhile_append_cons hu']
  exact ⟨takeWhile_append_cons hr _, dropWhile_append_cons hr _, rfl, rfl⟩

end Spans

/-- A page is a run and a tail, or it begins with a run and a tag. -/
theorem page_cases (page : WideText) :
    (∃ run tail, page = run ++ tail ∧ .char '<' ∉ run ∧ IsTail tail)
      ∨ ∃ run tag rest, page = run ++ (tag ++ rest) ∧ .char '<' ∉ run ∧ IsTag tag := by
  by_cases hlt : .char '<' ∈ page
  · obtain ⟨run, rest, rfl, hrun⟩ := List.eq_append_cons_of_mem hlt
    by_cases hgt : .char '>' ∈ rest
    · obtain ⟨u, v, rfl, hu⟩ := List.eq_append_cons_of_mem hgt
      exact .inr ⟨run, .char '<' :: u ++ [.char '>'], v, by simp, hrun, u, rfl, hu⟩
    · exact .inl ⟨run, .char '<' :: rest, rfl, hrun, .inr ⟨rest, rfl, hgt⟩⟩
  · exact .inl ⟨page, [], by simp, hlt, .inl rfl⟩

/-- What holds of a run with a tail and is handed on from a page to that page behind a run and a tag
holds of all pages. -/
@[elab_as_elim]
theorem page_induction {motive : WideText → Prop}
    (run_tail : ∀ run tail, .char '<' ∉ run → IsTail tail → motive (run ++ tail))
    (run_tag : ∀ run tag rest, .char '<' ∉ run → IsTag tag → motive rest →
      motive (run ++ (tag ++ rest))) (page : WideText) : motive page := by
  induction h : page.length using Nat.strongRecOn generalizing page with
  | ind n ih =>
    subst h
    rcases page_cases page with ⟨run, tail, rfl, hr, ht⟩ | ⟨run, tag, rest, rfl, hr, ht⟩
    · exact run_tail run tail hr ht
    · have hlt : rest.length < (run ++ (tag ++ rest)).length := by
        have := List.length_pos_of_ne_nil ht.ne_nil
        simp only [List.length_append]
        omega
      exact run_tag run tag rest hr ht (ih _ hlt rest rfl)

namespace Pieces

/-- The pieces have the form that cutting gives them. -/
structure Cut (p : Pieces) : Prop where
  pieces : ∀ q ∈ p.pieces, .char '<' ∉ q.run ∧ IsTag q.tag
  last : .char '<' ∉ p.last
  tail : IsTail p.tail

instance (p : Pieces) : Decidable p.Cut :=
  decidable_of_iff
    ((∀ q ∈ p.pieces, .char '<' ∉ q.run ∧ IsTag q.tag) ∧ .char '<' ∉ p.last ∧ IsTail p.tail)
    ⟨fun ⟨h₁, h₂, h₃⟩ => ⟨h₁, h₂, h₃⟩, fun h => ⟨h.pieces, h.last, h.tail⟩⟩

/-- The pieces with one more in front. -/
def cons (q : Piece) (p : Pieces) : Pieces :=
  { p with pieces := q :: p.pieces }

@[elab_as_elim]
theorem cons_induction {motive : Pieces → Prop} (nil : ∀ last tail, motive ⟨[], last, tail⟩)
    (cons : ∀ q p, motive p → motive (p.cons q)) : ∀ p, motive p
  | ⟨[], last, tail⟩ => nil last tail
  | ⟨q :: qs, last, tail⟩ => cons q ⟨qs, last, tail⟩ (cons_induction nil cons ⟨qs, last, tail⟩)

theorem cut_cons {q : Piece} {p : Pieces} :
    (p.cons q).Cut ↔ (.char '<' ∉ q.run ∧ IsTag q.tag) ∧ p.Cut := by
  constructor
  · intro h
    obtain ⟨hq, hp⟩ := List.forall_mem_cons.1 h.pieces
    exact ⟨hq, hp, h.last, h.tail⟩
  · rintro ⟨hq, hp⟩
    exact ⟨List.forall_mem_cons.2 ⟨hq, hp.pieces⟩, hp.last, hp.tail⟩

theorem toText_cons (q : Piece) (p : Pieces) :
    (p.cons q).toText = q.run ++ (q.tag ++ p.toText) := by
  simp [cons, toText]

/-! ## Cutting -/

theorem ofTextAfter_run_tail (done : List Piece) {run tail : WideText} (hr : .char '<' ∉ run)
    (ht : IsTail tail) : ofTextAfter done (run ++ tail) = ⟨done.reverse, run, tail⟩ := by
  obtain ⟨htake, hdrop, hgt⟩ := spans_run_tail hr ht
  rw [ofTextAfter]
  split
  · rw [htake, hdrop]
  · rename_i c after h
    rw [hdrop, hgt] at h
    exact absurd h (List.cons_ne_nil c after).symm

theorem ofTextAfter_run_tag (done : List Piece) {run tag : WideText} (hr : .char '<' ∉ run)
    (ht : IsTag tag) (rest : WideText) :
    ofTextAfter done (run ++ (tag ++ rest)) = ofTextAfter (⟨run, tag⟩ :: done) rest := by
  obtain ⟨htake, hdrop, htag, hgt⟩ := spans_run_tag hr ht rest
  rw [ofTextAfter]
  split
  · rename_i h
    rw [hdrop, hgt] at h
    exact absurd h (List.cons_ne_nil _ _)
  · rename_i c after h
    rw [hdrop, hgt] at h
    obtain ⟨rfl, rfl⟩ := List.cons.inj h
    rw [htake, hdrop, htag]

theorem ofText_run_tail {run tail : WideText} (hr : .char '<' ∉ run) (ht : IsTail tail) :
    ofText (run ++ tail) = ⟨[], run, tail⟩ :=
  ofTextAfter_run_tail [] hr ht

/-- The pieces behind those already found are the pieces of the rest. -/
theorem ofTextAfter_eq (done : List Piece) (page : WideText) : ofTextAfter done page
    = ⟨done.reverse ++ (ofText page).pieces, (ofText page).last, (ofText page).tail⟩ := by
  induction page using page_induction generalizing done with
  | run_tail run tail hr ht =>
    rw [ofTextAfter_run_tail done hr ht, ofText_run_tail hr ht, List.append_nil]
  | run_tag run tag rest hr ht ih =>
    rw [ofTextAfter_run_tag done hr ht, ofText, ofTextAfter_run_tag [] hr ht, ih, ih [⟨run, tag⟩]]
    simp

theorem ofText_run_tag {run tag : WideText} (hr : .char '<' ∉ run) (ht : IsTag tag)
    (rest : WideText) : ofText (run ++ (tag ++ rest)) = (ofText rest).cons ⟨run, tag⟩ := by
  rw [ofText, ofTextAfter_run_tag [] hr ht, ofTextAfter_eq]
  rfl

theorem cut_ofText (page : WideText) : (ofText page).Cut ∧ (ofText page).toText = page := by
  induction page using page_induction with
  | run_tail run tail hr ht =>
    rw [ofText_run_tail hr ht]
    exact ⟨⟨by simp, hr, ht⟩, by simp [toText]⟩
  | run_tag run tag rest hr ht ih =>
    obtain ⟨hc, hrest⟩ := ih
    rw [ofText_run_tag hr ht, toText_cons, hrest]
    exact ⟨cut_cons.2 ⟨⟨hr, ht⟩, hc⟩, rfl⟩

/-- Pieces of the right form are those of the page that they make up. -/
theorem ofText_toText {p : Pieces} (h : p.Cut) : ofText p.toText = p := by
  induction p using cons_induction with
  | nil last tail =>
    have hpage : (⟨[], last, tail⟩ : Pieces).toText = last ++ tail := by simp [toText]
    rw [hpage, ofText_run_tail h.last h.tail]
  | cons q p ih =>
    obtain ⟨⟨hr, ht⟩, hp⟩ := cut_cons.1 h
    rw [toText_cons, ofText_run_tag hr ht, ih hp]

end Pieces

/-! ## Tokens -/

/-- A run of text or a tag. -/
inductive Token
  | run (t : WideText)
  | tag (t : WideText)
  deriving DecidableEq, Repr

namespace Token

def text : Token → WideText
  | run t => t
  | tag t => t

/-- The text that some tokens make up. -/
def concat (ts : List Token) : WideText :=
  ts.flatMap text

@[simp]
theorem concat_nil : concat [] = [] := rfl

@[simp]
theorem concat_cons (x : Token) (ts : List Token) : concat (x :: ts) = x.text ++ concat ts := rfl

@[simp]
theorem concat_append (xs ys : List Token) : concat (xs ++ ys) = concat xs ++ concat ys := by
  simp [concat]

/-- A run as a token, unless it is empty. -/
def ofRun (t : WideText) : List Token :=
  if t.isEmpty then [] else [run t]

@[simp]
theorem ofRun_nil : ofRun [] = [] := rfl

theorem ofRun_of_ne_nil {t : WideText} (h : t ≠ []) : ofRun t = [run t] := by
  rw [ofRun, if_neg (by simpa using h)]

@[simp]
theorem concat_ofRun (t : WideText) : concat (ofRun t) = t := by
  rcases t with _ | ⟨c, t⟩
  · rfl
  · simp [ofRun, text]

/-- Tokens in the form that cutting gives them: runs are not empty, hold no `<` and do not stand
side by side, and tags are tags. -/
def Apart : List Token → Prop
  | [] => True
  | .run t :: ts => t ≠ [] ∧ .char '<' ∉ t ∧ (∀ u, ts.head? ≠ some (.run u)) ∧ Apart ts
  | .tag t :: ts => IsTag t ∧ Apart ts

end Token

def Piece.tokens (q : Piece) : List Token :=
  Token.ofRun q.run ++ [.tag q.tag]

namespace Pieces

/-- The tokens of some pieces, without the tail. -/
def tokens (p : Pieces) : List Token :=
  p.pieces.flatMap Piece.tokens ++ Token.ofRun p.last

theorem tokens_cons (q : Piece) (p : Pieces) :
    (p.cons q).tokens = Token.ofRun q.run ++ .tag q.tag :: p.tokens := by
  simp [tokens, cons, Piece.tokens]

theorem concat_tokens (p : Pieces) : Token.concat p.tokens ++ p.tail = p.toText := by
  induction p using cons_induction with
  | nil last tail => simp [tokens, toText]
  | cons q p ih =>
    rw [toText_cons, tokens_cons, ← ih]
    simp [Token.text, cons]

theorem apart_ofRun {t : WideText} (h : .char '<' ∉ t) : Token.Apart (Token.ofRun t) := by
  rcases t with _ | ⟨c, t⟩
  · trivial
  · rw [Token.ofRun_of_ne_nil (List.cons_ne_nil c t)]
    exact ⟨List.cons_ne_nil c t, h, by simp, trivial⟩

theorem Cut.apart {p : Pieces} (h : p.Cut) : Token.Apart p.tokens := by
  induction p using cons_induction with
  | nil last tail => simpa [tokens] using apart_ofRun h.last
  | cons q p ih =>
    obtain ⟨⟨hr, ht⟩, hp⟩ := cut_cons.1 h
    rw [tokens_cons]
    rcases hq : q.run with _ | ⟨c, t⟩
    · exact ⟨ht, ih hp⟩
    · rw [hq] at hr
      rw [Token.ofRun_of_ne_nil (List.cons_ne_nil c t)]
      exact ⟨List.cons_ne_nil c t, hr, by simp, ht, ih hp⟩

/-- Tokens of the right form and a tail are those of the page that they make up. -/
theorem tokens_ofText : ∀ (ts : List Token) {tail : WideText}, Token.Apart ts → IsTail tail →
    (ofText (Token.concat ts ++ tail)).tokens = ts ∧ (ofText (Token.concat ts ++ tail)).tail = tail
  | [], tail, _, ht => by
    rw [Token.concat_nil, ofText_run_tail (by simp) ht]
    exact ⟨rfl, rfl⟩
  | .tag t :: ts, tail, h, ht => by
    obtain ⟨ih1, ih2⟩ := tokens_ofText ts h.2 ht
    have hcut := ofText_run_tag (List.not_mem_nil) h.1 (Token.concat ts ++ tail)
    rw [List.nil_append] at hcut
    rw [Token.concat_cons, List.append_assoc, Token.text, hcut, tokens_cons, ih1]
    exact ⟨rfl, ih2⟩
  | [.run t], tail, h, ht => by
    have hpage : Token.concat [.run t] = t := by simp [Token.text]
    rw [hpage, ofText_run_tail h.2.1 ht]
    exact ⟨by simp [tokens, Token.ofRun_of_ne_nil h.1], rfl⟩
  | .run t :: .tag u :: ts, tail, h, ht => by
    obtain ⟨hne, hlt, -, htag, hts⟩ := h
    obtain ⟨ih1, ih2⟩ := tokens_ofText ts hts ht
    simp only [Token.concat_cons, Token.text, List.append_assoc]
    rw [ofText_run_tag hlt htag, tokens_cons, ih1, Token.ofRun_of_ne_nil hne]
    exact ⟨rfl, ih2⟩
  | .run t :: .run u :: ts, _, h, _ => absurd rfl (h.2.2.1 u)

end Pieces

end Phrasebook.Html
