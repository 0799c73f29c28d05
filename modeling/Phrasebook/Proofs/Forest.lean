import Phrasebook.Proofs.Walk

/-!
# Well-formed pages

A page is well formed if it is the text of a forest: of runs of text, tags that stand alone, and
elements with an opening and a closing tag around a forest. A walk through such a page is a walk
through the tree. What is inside an element does not change what is open around it
(`after_tokens`), so that a run goes through the function if an element around it is allowed, and
there is nothing to note (`mapText_toText`).
-/

namespace Phrasebook.Html

/-- A sequence of runs, tags that stand alone, and elements with a sequence inside. -/
inductive Forest
  | nil
  | text (t : WideText) (rest : Forest)
  | tag (t : WideText) (rest : Forest)
  | element (opening : WideText) (children : Forest) (closing : WideText) (rest : Forest)
  deriving DecidableEq, Repr

namespace Elements

/-- The tag opens no element and closes none: it has no name, closes itself, or is of an element
that never has a closing tag. -/
def StandsAlone (e : Elements) (tag : WideText) : Prop :=
  ∀ t, TagName.ofTag? tag = some t → isSelfClosing tag = true ∨ t.name ∈ e.void

/-- The tags open and close an element of one name. -/
def Enclose (e : Elements) (opening closing : WideText) : Prop :=
  ∃ name, name ∉ e.void ∧ TagName.ofTag? opening = some ⟨false, name⟩
    ∧ TagName.ofTag? closing = some ⟨true, name⟩ ∧ isSelfClosing opening = false
    ∧ isSelfClosing closing = false

/-- Whether a tag opens an allowed element. -/
def opensAllowed (e : Elements) (tag : WideText) : Bool :=
  (TagName.ofTag? tag).any fun t => e.allowed.contains t.name

end Elements

namespace Forest

def toText : Forest → WideText
  | nil => []
  | text t rest => t ++ rest.toText
  | tag t rest => t ++ rest.toText
  | element opening children closing rest =>
    opening ++ (children.toText ++ (closing ++ rest.toText))

def tokens : Forest → List Token
  | nil => []
  | text t rest => .run t :: rest.tokens
  | tag t rest => .tag t :: rest.tokens
  | element opening children closing rest =>
    .tag opening :: (children.tokens ++ .tag closing :: rest.tokens)

def startsWithText : Forest → Bool
  | text _ _ => true
  | _ => false

/-- The forest is what its text is read as: its runs are not empty, hold no `<` and do not stand
side by side, and its tags are tags that do what they do in it. -/
def WellFormed (e : Elements) : Forest → Prop
  | nil => True
  | text t rest => t ≠ [] ∧ .char '<' ∉ t ∧ rest.startsWithText = false ∧ rest.WellFormed e
  | tag t rest => IsTag t ∧ e.StandsAlone t ∧ rest.WellFormed e
  | element opening children closing rest => IsTag opening ∧ IsTag closing
    ∧ e.Enclose opening closing ∧ children.WellFormed e ∧ rest.WellFormed e

/-- The forest with a function applied to each run inside an allowed element; `inside` says whether
the forest is inside one. -/
def mapInside {m : Type → Type} [Monad m] (e : Elements) (f : WideText → m WideText)
    (inside : Bool) : Forest → m Forest
  | nil => pure nil
  | text t rest => do
    let t ← if inside then f t else pure t
    let rest ← rest.mapInside e f inside
    pure (text t rest)
  | tag t rest => do
    let rest ← rest.mapInside e f inside
    pure (tag t rest)
  | element opening children closing rest => do
    let children ← children.mapInside e f (inside || e.opensAllowed opening)
    let rest ← rest.mapInside e f inside
    pure (element opening children closing rest)

end Forest

/-! ## What tags do -/

namespace Elements

variable {e : Elements} {opening closing t : WideText}

theorem StandsAlone.track (h : e.StandsAlone t) (stack : List Text) :
    e.track stack t = (stack, none) := by
  have heffect : e.effect? t = none := by
    unfold effect?
    rcases ht : TagName.ofTag? t with _ | n
    · rfl
    · rcases h n ht with hself | hvoid
      · simp [hself]
      · simp [hvoid]
  rw [Elements.track, heffect]

/-- An opening tag puts its name on the stack, and the closing tag takes it off again. -/
theorem Enclose.track (h : e.Enclose opening closing) (stack : List Text) : ∃ name,
    e.track stack opening = (name :: stack, none) ∧ e.track (name :: stack) closing = (stack, none)
      ∧ e.allows (name :: stack) = (e.allows stack || e.opensAllowed opening) := by
  obtain ⟨name, hvoid, hopening, hclosing, hself, hself'⟩ := h
  refine ⟨name, ?_, ?_, ?_⟩
  · simp [Elements.track, effect?, hopening, hself, hvoid]
  · simp [Elements.track, effect?, hclosing, hself', hvoid]
  · simp [allows, opensAllowed, hopening, Bool.or_comm]

end Elements

namespace Forest

variable {e : Elements}

theorem concat_tokens : ∀ F : Forest, Token.concat F.tokens = F.toText
  | nil => rfl
  | text t rest => by rw [tokens, Token.concat_cons, concat_tokens rest]; rfl
  | tag t rest => by rw [tokens, Token.concat_cons, concat_tokens rest]; rfl
  | element opening children closing rest => by
    rw [tokens, Token.concat_cons, Token.concat_append, Token.concat_cons, concat_tokens children,
      concat_tokens rest]
    rfl

theorem head?_tokens : ∀ {F : Forest}, F.startsWithText = false →
    ∀ t, F.tokens.head? ≠ some (.run t)
  | nil, _, _ => by simp [tokens]
  | tag _ _, _, _ => by simp [tokens]
  | element _ _ _ _, _, _ => by simp [tokens]

theorem apart_append_tag {t : WideText} {ys : List Token} (hy : Token.Apart (.tag t :: ys)) :
    ∀ {xs : List Token}, Token.Apart xs → Token.Apart (xs ++ .tag t :: ys)
  | [], _ => hy
  | .tag _ :: _, hx => ⟨hx.1, apart_append_tag hy hx.2⟩
  | .run u :: xs, hx => by
    obtain ⟨hne, hlt, hhead, hxs⟩ := hx
    refine ⟨hne, hlt, fun v => ?_, apart_append_tag hy hxs⟩
    rcases xs with _ | ⟨x, xs⟩
    · simp
    · exact hhead v

theorem WellFormed.apart : ∀ {F : Forest}, F.WellFormed e → Token.Apart F.tokens
  | nil, _ => trivial
  | text _ _, h => ⟨h.1, h.2.1, head?_tokens h.2.2.1, WellFormed.apart h.2.2.2⟩
  | tag _ _, h => ⟨h.1, WellFormed.apart h.2.2⟩
  | element _ _ _ _, h => by
    obtain ⟨hopening, hclosing, -, hchildren, hrest⟩ := h
    exact ⟨hopening, apart_append_tag ⟨hclosing, hrest.apart⟩ hchildren.apart⟩

/-- Behind a forest the same elements are open as before it, and nothing was to be noted. -/
theorem after_tokens : ∀ {F : Forest}, F.WellFormed e → ∀ stack : List Text,
    e.after stack F.tokens = stack ∧ e.noticesIn stack F.tokens = []
  | nil, _, _ => ⟨rfl, rfl⟩
  | text _ _, h, stack => after_tokens h.2.2.2 stack
  | tag t rest, h, stack => by
    obtain ⟨h1, h2⟩ := after_tokens h.2.2 stack
    simp only [tokens, Elements.after, Elements.noticesIn, h.2.1.track stack]
    exact ⟨h1, h2⟩
  | element opening children closing rest, h, stack => by
    obtain ⟨-, -, henclose, hchildren, hrest⟩ := h
    obtain ⟨name, hopen, hclose, -⟩ := henclose.track stack
    obtain ⟨h1, h2⟩ := after_tokens hchildren (name :: stack)
    obtain ⟨h3, h4⟩ := after_tokens hrest stack
    simp only [tokens, Elements.after, Elements.noticesIn, Elements.after_append,
      Elements.noticesIn_append, hopen, h1, h2, hclose]
    exact ⟨h3, h4⟩

section Monadic

variable {m : Type → Type} [Monad m] [LawfulMonad m] (f : WideText → m WideText)

/-- To walk through the tokens of a forest is to go through the forest. -/
theorem walk_tokens : ∀ {F : Forest}, F.WellFormed e → ∀ stack : List Text,
    e.walk f stack F.tokens = tokens <$> F.mapInside e f (e.allows stack)
  | nil, _, _ => by simp [tokens, Elements.walk, mapInside]
  | text t rest, h, stack => by
    have ih := walk_tokens h.2.2.2 stack
    simp only [tokens, Elements.walk, mapInside, ih]
    split_ifs <;> simp [tokens]
  | tag t rest, h, stack => by
    have ih := walk_tokens h.2.2 stack
    simp [tokens, Elements.walk, mapInside, h.2.1.track stack, ih]
  | element opening children closing rest, h, stack => by
    obtain ⟨-, -, henclose, hchildren, hrest⟩ := h
    obtain ⟨name, hopen, hclose, hallows⟩ := henclose.track stack
    have ih1 := walk_tokens hchildren (name :: stack)
    have ih2 := walk_tokens hrest stack
    rw [hallows] at ih1
    simp [tokens, Elements.walk, mapInside, Elements.walk_append, hopen, hclose,
      (after_tokens hchildren (name :: stack)).1, ih1, ih2]

/-- The function is applied to the runs of a well-formed page that have an allowed element around
them. In the end no element is open, and there is nothing to note. -/
theorem mapText_toText {F : Forest} (h : F.WellFormed e) :
    e.mapText f F.toText = (fun G => (G.toText, [])) <$> F.mapInside e f false
      ∧ e.openAfter F.toText = [] := by
  obtain ⟨htokens, htail⟩ := Pieces.tokens_ofText F.tokens h.apart (.inl rfl)
  rw [List.append_nil, concat_tokens] at htokens htail
  obtain ⟨hafter, hnotices⟩ := after_tokens h []
  refine ⟨?_, ?_⟩
  · rw [Elements.mapText_eq, htokens, htail, hnotices, walk_tokens f h,
      show e.allows [] = false from rfl]
    simp [Elements.unterminated, htail, concat_tokens]
  · rw [Elements.openAfter_eq, htokens, hafter]

end Monadic

/-- A cell with a line break in it, and a run behind it. -/
def cell : Forest :=
  .element (.ofString "<TD x>")
    (.text (.ofString "ab") (.tag (.ofString "<br>") (.text (.ofString "cd") .nil)))
    (.ofString "</td >") (.text (.ofString "ef") .nil)

theorem mapText_cell : cell.WellFormed .standard
    ∧ Elements.standard.mapText (fun t => some t.reverse) cell.toText
      = some (.ofString "<TD x>ba<br>dc</td >ef", [])
    ∧ Elements.standard.openAfter cell.toText = [] := by
  have hbr : Elements.standard.StandsAlone (.ofString "<br>") := by
    intro t ht
    right
    obtain rfl : t = ⟨false, "br".toList⟩ := by
      rw [← Option.some.injEq, ← ht]
      decide
    decide
  have hcell : cell.WellFormed .standard :=
    ⟨by decide, by decide,
      ⟨"td".toList, by decide, by decide, by decide, by decide, by decide⟩,
      ⟨by decide, by decide, rfl, by decide, hbr, by decide, by decide, rfl, trivial⟩,
      by decide, by decide, rfl, trivial⟩
  obtain ⟨hmap, hopen⟩ := mapText_toText (fun t => some t.reverse) hcell
  exact ⟨hcell, hmap.trans (by decide), hopen⟩

end Forest

end Phrasebook.Html
