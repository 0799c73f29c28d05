import Phrasebook.Action
import Phrasebook.Proofs.FileTree

/-!
# What actions do

Some actions only read: they change no file, and what comes of them depends on the files alone
(`Reading`). What such an action gives for a tree of files it gives whenever the files are those
(`Yields`). Other actions write, but only to certain places, whether they fail or not
(`WritesOnly`). And parts of the world can be named that an action never touches (`Leaves`).
-/

namespace Phrasebook.Action

variable {α β : Type}

section Bind

variable {x : Action α} {f : α → Action β} {w w' : World}

theorem runOn_bind (x : Action α) (f : α → Action β) (w : World) :
    (x >>= f).runOn w = ExceptT.bindCont f (x.runOn w).1 (x.runOn w).2 := rfl

theorem runOn_bind_of_ok {a : α} (h : x.runOn w = (.ok a, w')) :
    (x >>= f).runOn w = (f a).runOn w' := by
  rw [runOn_bind, h]
  rfl

theorem runOn_bind_of_error {e : Failure} (h : x.runOn w = (.error e, w')) :
    (x >>= f).runOn w = (.error e, w') := by
  rw [runOn_bind, h]
  rfl

theorem runOn_bind_ok {b : β} : (x >>= f).runOn w = (.ok b, w')
    ↔ ∃ a w₁, x.runOn w = (.ok a, w₁) ∧ (f a).runOn w₁ = (.ok b, w') := by
  rcases h : x.runOn w with ⟨e | a, w₁⟩
  · simp [runOn_bind_of_error h]
  · rw [runOn_bind_of_ok h]
    constructor
    · intro hf
      exact ⟨a, w₁, rfl, hf⟩
    · rintro ⟨a', w₁', heq, hf⟩
      obtain ⟨ha, rfl⟩ := Prod.mk.inj heq
      obtain rfl := Except.ok.inj ha
      exact hf

theorem runOn_bind_error {e : Failure} : (x >>= f).runOn w = (.error e, w')
    ↔ x.runOn w = (.error e, w')
      ∨ ∃ a w₁, x.runOn w = (.ok a, w₁) ∧ (f a).runOn w₁ = (.error e, w') := by
  rcases h : x.runOn w with ⟨e' | a, w₁⟩
  · rw [runOn_bind_of_error h]
    simp
  · rw [runOn_bind_of_ok h]
    constructor
    · intro hf
      exact .inr ⟨a, w₁, rfl, hf⟩
    · rintro (heq | ⟨a', w₁', heq, hf⟩)
      · cases heq
      · obtain ⟨ha, rfl⟩ := Prod.mk.inj heq
        obtain rfl := Except.ok.inj ha
        exact hf

theorem runOn_get_bind (f : World → Action α) (w : World) : (get >>= f).runOn w = (f w).runOn w :=
  rfl

end Bind

theorem runOn_reportingFrom (level : Level) (x : Action α) (w : World) :
    (reportingFrom level x).runOn w = ((x.runOn { w with events := [] }).1,
      { (x.runOn { w with events := [] }).2 with
        events := w.events
          ++ (x.runOn { w with events := [] }).2.events.filter (Event.reaches level) }) := rfl

/-! ## Reading -/

/-- The action changes no file, and what comes of it depends on the files alone. -/
structure Reading (x : Action α) : Prop where
  result : ∀ w w' : World, w.tree = w'.tree → (x.runOn w).1 = (x.runOn w').1
  tree : ∀ w, (x.runOn w).2.tree = w.tree

/-- With these files the action gives this value and changes none of them. -/
def Yields (x : Action α) (t : FileTree) (a : α) : Prop :=
  ∀ w : World, w.tree = t → ∃ w', x.runOn w = (.ok a, w') ∧ w'.tree = t

section Reading

variable {x : Action α} {f : α → Action β} {t : FileTree} {w w' : World} {a : α} {b : β}

theorem Yields.result (h : x.Yields t a) (ht : w.tree = t) : (x.runOn w).1 = .ok a := by
  obtain ⟨w', hrun, -⟩ := h w ht
  rw [hrun]

theorem Yields.unique {a' : α} (h : x.Yields t a) (h' : x.Yields t a') : a = a' := by
  have h1 := h.result (w := { tree := t }) rfl
  rw [h'.result rfl] at h1
  exact (Except.ok.inj h1).symm

theorem Yields.bind (hx : x.Yields t a) (hf : (f a).Yields t b) : (x >>= f).Yields t b := by
  intro w ht
  obtain ⟨w₁, hrun, ht₁⟩ := hx w ht
  rw [runOn_bind_of_ok hrun]
  exact hf w₁ ht₁

/-- What a reading action gave once it gives for all worlds with these files. -/
theorem Reading.yields (hx : Reading x) (ht : w.tree = t) (h : (x.runOn w).1 = .ok a) :
    x.Yields t a := by
  intro w₁ ht₁
  refine ⟨(x.runOn w₁).2, Prod.ext ?_ rfl, ?_⟩
  · exact (hx.result w₁ w (ht₁.trans ht.symm)).trans h
  · exact (hx.tree w₁).trans ht₁

theorem Reading.tree_eq {result : Except Failure α} (hx : Reading x)
    (h : x.runOn w = (result, w')) : w'.tree = w.tree := by
  have htree := hx.tree w
  rwa [h] at htree

/-- A run that starts with a reading action goes on with what it gives and with the same files. -/
theorem Reading.bind_ok (hx : Reading x) (ht : w.tree = t)
    (h : (x >>= f).runOn w = (.ok b, w')) :
    ∃ a w₁, x.Yields t a ∧ w₁.tree = t ∧ (f a).runOn w₁ = (.ok b, w') := by
  obtain ⟨a, w₁, hrun, hf⟩ := runOn_bind_ok.1 h
  exact ⟨a, w₁, hx.yields ht (by rw [hrun]), (hx.tree_eq hrun).trans ht, hf⟩

theorem Reading.bind (hx : Reading x) (hf : ∀ a, Reading (f a)) : Reading (x >>= f) := by
  refine ⟨fun w w' ht => ?_, fun w => ?_⟩
  · have hresult := hx.result w w' ht
    have htree := hx.tree w
    have htree' := hx.tree w'
    rcases h : x.runOn w with ⟨r, w₁⟩
    rcases h' : x.runOn w' with ⟨r', w₁'⟩
    rw [h] at hresult htree
    rw [h'] at hresult htree'
    obtain rfl : r = r' := hresult
    rcases r with e | a
    · rw [runOn_bind_of_error h, runOn_bind_of_error h']
    · rw [runOn_bind_of_ok h, runOn_bind_of_ok h']
      exact (hf a).result w₁ w₁' (htree.trans (ht.trans htree'.symm))
  · have htree := hx.tree w
    rcases h : x.runOn w with ⟨e | a, w₁⟩ <;> rw [h] at htree
    · rw [runOn_bind_of_error h]
      exact htree
    · rw [runOn_bind_of_ok h]
      exact ((hf a).tree w₁).trans htree

/-- An action made of reading ones gives what the second gives behind what the first gives. -/
theorem yields_bind (hx : Reading x) (hf : ∀ a, Reading (f a)) :
    (x >>= f).Yields t b ↔ ∃ a, x.Yields t a ∧ (f a).Yields t b := by
  constructor
  · intro h
    obtain ⟨w', hrun, -⟩ := h { tree := t } rfl
    obtain ⟨a, w₁, ha, ht₁, hb⟩ := hx.bind_ok rfl hrun
    exact ⟨a, ha, (hf a).yields ht₁ (by rw [hb])⟩
  · rintro ⟨a, ha, hb⟩
    exact ha.bind hb

theorem reading_pure (a : α) : Reading (pure a) :=
  ⟨fun _ _ _ => rfl, fun _ => rfl⟩

theorem yields_pure {a' : α} : (pure a : Action α).Yields t a' ↔ a = a' := by
  have h : (pure a : Action α).Yields t a := fun w ht => ⟨w, rfl, ht⟩
  exact ⟨h.unique, fun heq => heq ▸ h⟩

theorem Reading.map (hx : Reading x) (g : α → β) : Reading (g <$> x) := by
  rw [map_eq_pure_bind]
  exact hx.bind fun _ => reading_pure _

theorem yields_map {g : α → β} (hx : Reading x) :
    (g <$> x).Yields t b ↔ ∃ a, x.Yields t a ∧ g a = b := by
  rw [map_eq_pure_bind, yields_bind hx fun _ => reading_pure _]
  simp only [yields_pure]

theorem reading_report (e : Event) : Reading (report e) :=
  ⟨fun _ _ _ => rfl, fun _ => rfl⟩

theorem yields_report (e : Event) (t : FileTree) (u : Unit) : (report e).Yields t u :=
  fun w ht => ⟨{ w with events := w.events ++ [e] }, rfl, ht⟩

theorem reading_call (c : Http.Call) : Reading (call c) :=
  ⟨fun _ _ _ => rfl, fun _ => rfl⟩

theorem yields_call (c : Http.Call) (t : FileTree) (u : Unit) : (call c).Yields t u :=
  fun w ht => ⟨{ w with calls := w.calls ++ [c] }, rfl, ht⟩

theorem reading_ofExcept {ε : Type} (failure : ε → Failure) (r : Except ε α) :
    Reading (ofExcept failure r) := by
  rcases r with e | a
  · exact ⟨fun _ _ _ => rfl, fun _ => rfl⟩
  · exact reading_pure a

theorem yields_ofExcept {ε : Type} {failure : ε → Failure} {r : Except ε α} :
    (ofExcept failure r).Yields t a ↔ r = .ok a := by
  rcases r with e | a'
  · constructor
    · intro h
      cases h.result (w := { tree := t }) rfl
    · intro h
      cases h
  · rw [ofExcept, yields_pure, Except.ok.injEq]

theorem runOn_joined_of_ok {s : Setting} {part : Text} (h : s.part = .ok part) (p : Path)
    (w : World) : (joined p s).runOn w = (.ok (p.join part), w) := by
  rw [joined, fitting, h]
  rfl

theorem runOn_joined_of_error {s : Setting} {misfit : Setting.Misfit} (h : s.part = .error misfit)
    (p : Path) (w : World) : (joined p s).runOn w = (.error (.setting misfit), w) := by
  rw [joined, fitting, h]
  rfl

theorem reading_joined (p : Path) (s : Setting) : Reading (joined p s) :=
  (reading_ofExcept _ _).bind fun _ => reading_pure _

theorem yields_joined {p q : Path} {s : Setting} :
    (joined p s).Yields t q ↔ ∃ part, s.part = .ok part ∧ p.join part = q := by
  rw [joined, fitting, yields_bind (reading_ofExcept _ _) fun _ => reading_pure _]
  simp only [yields_ofExcept, yields_pure]

/-- What can be found out about the files, or the failure to find it out. -/
def found (path : Text) (f : FileTree → Except FileTree.Problem α) : Action α := do
  let w ← get
  ofExcept (.file · path) (f w.tree)

section Found

variable {path : Text} {g : FileTree → Except FileTree.Problem α}

theorem runOn_found (w : World) :
    (found path g).runOn w = (ofExcept (fun e => Failure.file e path) (g w.tree)).runOn w := rfl

theorem reading_found : Reading (found path g) := by
  refine ⟨fun w w' ht => ?_, fun w => ?_⟩
  · rw [runOn_found, runOn_found, ht]
    exact (reading_ofExcept _ _).result w w' ht
  · rw [runOn_found]
    exact (reading_ofExcept _ _).tree w

theorem yields_found : (found path g).Yields t a ↔ g t = .ok a := by
  have h : (found path g).Yields t a
      ↔ (ofExcept (fun e => Failure.file e path) (g t)).Yields t a := by
    constructor
    · intro h w ht
      have hrun := h w ht
      rwa [runOn_found, ht] at hrun
    · intro h w ht
      rw [runOn_found, ht]
      exact h w ht
  exact h.trans yields_ofExcept

end Found

theorem reading_contains (p : Path) : Reading (contains p) :=
  reading_found (g := (·.contains p))

theorem yields_contains {p : Path} {b : Bool} :
    (contains p).Yields t b ↔ t.contains p = .ok b :=
  yields_found (g := (·.contains p))

theorem reading_bytesAt (p : Path) : Reading (bytesAt p) :=
  reading_found (g := (·.read p))

theorem yields_bytesAt {p : Path} {content : Bytes} :
    (bytesAt p).Yields t content ↔ t.read p = .ok content :=
  yields_found (g := (·.read p))

theorem reading_textAt (p : Path) : Reading (textAt p) :=
  (reading_bytesAt p).bind fun _ => reading_ofExcept _ _

theorem yields_textAt {p : Path} {text : Text} : (textAt p).Yields t text
    ↔ ∃ bytes, t.read p = .ok bytes ∧ Text.Utf8.decode bytes = .ok text := by
  rw [textAt, yields_bind (reading_bytesAt p) fun _ => reading_ofExcept _ _]
  simp only [yields_bytesAt, yields_ofExcept]

end Reading

/-- Reports one after the other are added to those made before. -/
theorem runOn_forIn_report {γ : Type} (event : γ → Event) : ∀ (xs : List γ) (w : World),
    (forIn xs PUnit.unit fun x _ => do
      report (event x)
      pure (ForInStep.yield PUnit.unit) : Action PUnit).runOn w
      = (.ok PUnit.unit, { w with events := w.events ++ xs.map event })
  | [], w => by
    rw [List.forIn_nil, List.map_nil, List.append_nil]
    rfl
  | x :: xs, w => by
    have ih := runOn_forIn_report event xs { w with events := w.events ++ [event x] }
    rw [List.append_assoc] at ih
    rw [List.forIn_cons, bind_assoc]
    exact ih

/-! ## Writing -/

/-- The action takes nothing away and writes to certain files only, also when it fails. Which they
are depends on the working directory. -/
def WritesOnly (written : Place → Place → Prop) (x : Action α) : Prop :=
  ∀ w, FileTree.Keeps (written w.tree.here) w.tree (x.runOn w).2.tree

section Writing

variable {written : Place → Place → Prop}

theorem Reading.writesOnly {x : Action α} (hx : Reading x) (written : Place → Place → Prop) :
    WritesOnly written x := by
  intro w
  rw [hx.tree w]
  exact .refl _ w.tree

theorem WritesOnly.bind {x : Action α} {f : α → Action β} (hx : WritesOnly written x)
    (hf : ∀ a, WritesOnly written (f a)) : WritesOnly written (x >>= f) := by
  intro w
  have h := hx w
  rcases hrun : x.runOn w with ⟨e | a, w₁⟩ <;> rw [hrun] at h
  · rw [runOn_bind_of_error hrun]
    exact h
  · rw [runOn_bind_of_ok hrun]
    have hthen := hf a w₁
    rw [h.here] at hthen
    exact h.trans hthen

theorem WritesOnly.mapM {f : α → Action β} : ∀ xs : List α, (∀ x ∈ xs, WritesOnly written (f x)) →
    WritesOnly written (xs.mapM f)
  | [], _ => by
    rw [List.mapM_nil]
    exact (reading_pure _).writesOnly written
  | x :: xs, h => by
    rw [List.mapM_cons]
    have ih := WritesOnly.mapM xs fun y hy => h y (List.mem_cons_of_mem _ hy)
    exact (h x List.mem_cons_self).bind fun _ =>
      ih.bind fun _ => (reading_pure _).writesOnly written

theorem WritesOnly.mono {x : Action α} {also : Place → Place → Prop} (hx : WritesOnly written x)
    (h : ∀ here q, written here q → also here q) : WritesOnly also x := fun w =>
  (hx w).mono (h _)

theorem WritesOnly.of_ok {x : Action α} (hx : WritesOnly written x) {w w' : World} {a : α}
    (h : x.runOn w = (.ok a, w')) : FileTree.Keeps (written w.tree.here) w.tree w'.tree := by
  have := hx w
  rwa [h] at this

section Change

variable {path : Text} {f : FileTree → Except FileTree.Problem FileTree} {w w' : World}

theorem runOn_change_of_ok {t : FileTree} (h : f w.tree = .ok t) :
    (change path f).runOn w = (.ok (), { w with tree := t }) := by
  rw [change, runOn_get_bind, h]
  rfl

theorem runOn_change_of_error {problem : FileTree.Problem} (h : f w.tree = .error problem) :
    (change path f).runOn w = (.error (.file problem path), w) := by
  rw [change, runOn_get_bind, h]
  rfl

theorem change_ok {u : Unit} (h : (change path f).runOn w = (.ok u, w')) :
    f w.tree = .ok w'.tree := by
  rcases hf : f w.tree with e | t
  · rw [runOn_change_of_error hf] at h
    simp at h
  · rw [runOn_change_of_ok hf] at h
    obtain ⟨-, rfl⟩ := Prod.mk.inj h
    rfl

/-- A change that cannot be made changes nothing. -/
theorem change_error {e : Failure} (h : (change path f).runOn w = (.error e, w')) : w' = w := by
  rcases hf : f w.tree with problem | t
  · rw [runOn_change_of_error hf] at h
    exact (Prod.mk.inj h).2.symm
  · rw [runOn_change_of_ok hf] at h
    simp at h

theorem writesOnly_change (path : Text)
    (hf : ∀ t t', f t = .ok t' → FileTree.Keeps (written t.here) t t') :
    WritesOnly written (change path f) := by
  intro w
  rcases h : f w.tree with e | t
  · rw [runOn_change_of_error h]
    exact .refl _ w.tree
  · rw [runOn_change_of_ok h]
    exact hf _ _ h

end Change

theorem writesOnly_putBytes (p : Path) (content : Bytes) :
    WritesOnly (fun here q => q = p.place here) (putBytes p content) :=
  writesOnly_change _ fun _ _ => FileTree.keeps_write

/-- To write a narrow text is to write its bytes. -/
theorem putText_wide (p : Path) (t : Text) :
    putText p t.wide = putBytes p (Text.Utf8.encode t) := by
  rw [putText, WideText.narrow_wide]

theorem putText_of_error {t : WideText} {halves : WideText.Halves} (h : t.narrow = .error halves)
    (p : Path) : putText p t = putBytes p [] >>= fun _ => throw (.unencodable halves) := by
  rw [putText, h]

theorem writesOnly_putText (p : Path) (t : WideText) :
    WritesOnly (fun here q => q = p.place here) (putText p t) := by
  rcases h : t.narrow with halves | u
  · rw [putText_of_error h]
    exact (writesOnly_putBytes p []).bind fun _ =>
      (reading_ofExcept Failure.unencodable (.error halves)).writesOnly _
  · rw [WideText.narrow_eq_ok.1 h, putText_wide]
    exact writesOnly_putBytes p _

theorem putText_wide_ok {p : Path} {t : Text} {w w' : World} {u : Unit}
    (h : (putText p t.wide).runOn w = (.ok u, w')) :
    w.tree.write p (Text.Utf8.encode t) = .ok w'.tree := by
  rw [putText_wide] at h
  exact change_ok h

/-- A text that was written is narrow. -/
theorem putText_ok {p : Path} {t : WideText} {w w' : World} {u : Unit}
    (h : (putText p t).runOn w = (.ok u, w')) :
    ∃ text : Text, t = text.wide ∧ w.tree.write p (Text.Utf8.encode text) = .ok w'.tree := by
  rcases hnarrow : t.narrow with halves | text
  · rw [putText_of_error hnarrow] at h
    obtain ⟨_, _, -, hthrow⟩ := runOn_bind_ok.1 h
    cases hthrow
  · obtain rfl := WideText.narrow_eq_ok.1 hnarrow
    exact ⟨text, rfl, putText_wide_ok h⟩

theorem writesOnly_makeWay (written : Place → Place → Prop) (start : Path.Start) :
    ∀ names : List Text, WritesOnly written (makeWay start names)
  | [] => (reading_pure ()).writesOnly written
  | name :: names => by
    have ih := writesOnly_makeWay written start names
    intro w
    let p : Path := ⟨start, (name :: names).reverse⟩
    have hchange : WritesOnly written (change p.toText (·.makeDirectory p)) :=
      writesOnly_change _ fun _ _ h => FileTree.keeps_makeDirectory h _
    rw [makeWay, runOn_get_bind]
    split
    · exact ih.bind (fun _ => hchange) w
    · exact ((reading_pure ()).writesOnly written).bind (fun _ => hchange) w

theorem writesOnly_makeDirectories (written : Place → Place → Prop) (p : Path) :
    WritesOnly written (makeDirectories p) :=
  writesOnly_makeWay written _ _

/-- A directory that was made with those on the way to it stands there. -/
theorem makeDirectories_ok {p : Path} {w w' : World} {u : Unit}
    (h : (makeDirectories p).runOn w = (.ok u, w')) : w'.tree.contains p = .ok true := by
  unfold makeDirectories at h
  rcases hnames : p.names.reverse with _ | ⟨name, names⟩
  · have hp : p = ⟨p.start, []⟩ := congrArg (Path.mk _) (List.reverse_eq_nil_iff.1 hnames)
    rw [hp]
    exact FileTree.contains_start _ _
  · have hp : (⟨p.start, (name :: names).reverse⟩ : Path) = p := by
      rw [← hnames, List.reverse_reverse]
    obtain ⟨w₁, hlast⟩ : ∃ w₁,
        (change p.toText (·.makeDirectory p)).runOn w₁ = (.ok u, w') := by
      rw [hnames, makeWay, runOn_get_bind, hp] at h
      split at h
      · obtain ⟨⟨⟩, w₁, -, hlast⟩ := runOn_bind_ok.1 h
        exact ⟨w₁, hlast⟩
      · exact ⟨_, h⟩
    exact FileTree.contains_of_makeDirectory (change_ok hlast)

end Writing

/-! ## Doing -/

/-- With these files the action gives this value and leaves those behind. -/
def Does (x : Action α) (t : FileTree) (a : α) (t' : FileTree) : Prop :=
  ∀ w : World, w.tree = t → ∃ w', x.runOn w = (.ok a, w') ∧ w'.tree = t'

section Doing

variable {x : Action α} {f : α → Action β} {t t' t'' : FileTree} {a : α} {b : β}

theorem Yields.does (h : x.Yields t a) : x.Does t a t := h

theorem Does.bind (hx : x.Does t a t') (hf : (f a).Does t' b t'') : (x >>= f).Does t b t'' := by
  intro w ht
  obtain ⟨w₁, hrun, ht₁⟩ := hx w ht
  rw [runOn_bind_of_ok hrun]
  exact hf w₁ ht₁

theorem does_change {path : Text} {g : FileTree → Except FileTree.Problem FileTree}
    (h : g t = .ok t') : (change path g).Does t () t' := by
  rintro w rfl
  exact ⟨_, runOn_change_of_ok h, rfl⟩

theorem does_putText_wide {p : Path} {text : Text}
    (h : t.write p (Text.Utf8.encode text) = .ok t') : (putText p text.wide).Does t () t' := by
  rw [putText_wide]
  exact does_change h

/-- A directory that needs no other to be made before it. -/
theorem does_makeDirectories {p : Path} (h : t.makeDirectory p = .ok t') :
    (makeDirectories p).Does t () t' := by
  unfold makeDirectories
  rcases hnames : p.names.reverse with _ | ⟨name, names⟩
  · have hp : p = ⟨p.start, []⟩ := congrArg (Path.mk _) (List.reverse_eq_nil_iff.1 hnames)
    rw [hp, FileTree.makeDirectory_start] at h
    obtain rfl := Except.ok.inj h
    exact (yields_pure.2 rfl).does
  · have hp : (⟨p.start, (name :: names).reverse⟩ : Path) = p := by
      rw [← hnames, List.reverse_reverse]
    rintro w rfl
    rw [makeWay, runOn_get_bind, hp, h]
    exact does_change h w rfl

end Doing

/-! ## Leaving -/

section Leaving

variable {γ : Type} {view : World → γ}

/-- Whatever becomes of the action, this part of the world stays as it is. -/
def Leaves (view : World → γ) (x : Action α) : Prop :=
  ∀ w, view (x.runOn w).2 = view w

theorem Leaves.of_run {x : Action α} (hx : Leaves view x) {w w' : World}
    {result : Except Failure α} (h : x.runOn w = (result, w')) : view w' = view w := by
  have hw := hx w
  rwa [h] at hw

theorem leaves_pure (a : α) : Leaves view (pure a : Action α) := fun _ => rfl

theorem leaves_ofExcept {ε : Type} (failure : ε → Failure) (r : Except ε α) :
    Leaves view (ofExcept failure r) := by
  cases r <;> exact fun _ => rfl

/-- What the second action leaves alone is as it is behind the first. -/
theorem view_bind {x : Action α} {f : α → Action β} (hf : ∀ a, Leaves view (f a)) (w : World) :
    view ((x >>= f).runOn w).2 = view (x.runOn w).2 := by
  rcases hrun : x.runOn w with ⟨e | a, w₁⟩
  · rw [runOn_bind_of_error hrun]
  · rw [runOn_bind_of_ok hrun]
    exact hf a w₁

theorem Leaves.bind {x : Action α} {f : α → Action β} (hx : Leaves view x)
    (hf : ∀ a, Leaves view (f a)) : Leaves view (x >>= f) := fun w =>
  (view_bind hf w).trans (hx w)

theorem Leaves.map {x : Action α} (hx : Leaves view x) (g : α → β) : Leaves view (g <$> x) := by
  rw [map_eq_pure_bind]
  exact hx.bind fun _ => leaves_pure _

theorem Leaves.mapM {f : α → Action β} : ∀ xs : List α, (∀ x ∈ xs, Leaves view (f x)) →
    Leaves view (xs.mapM f)
  | [], _ => by
    rw [List.mapM_nil]
    exact leaves_pure _
  | x :: xs, h => by
    rw [List.mapM_cons]
    have ih := Leaves.mapM xs fun y hy => h y (List.mem_cons_of_mem _ hy)
    exact (h x List.mem_cons_self).bind fun _ => ih.bind fun _ => leaves_pure _

/-- A part of the world in which there are no events is left alone by reports. -/
theorem leaves_report (hview : ∀ w events, view { w with events } = view w) (e : Event) :
    Leaves view (report e) := fun w => hview w _

theorem leaves_joined (p : Path) (s : Setting) : Leaves view (joined p s) :=
  (leaves_ofExcept _ _).bind fun _ => leaves_pure _

theorem leaves_found (path : Text) (g : FileTree → Except FileTree.Problem α) :
    Leaves view (found path g) := by
  intro w
  rw [runOn_found]
  exact leaves_ofExcept _ _ w

theorem leaves_contains (p : Path) : Leaves view (contains p) :=
  leaves_found _ (·.contains p)

theorem leaves_bytesAt (p : Path) : Leaves view (bytesAt p) :=
  leaves_found _ (·.read p)

theorem leaves_textAt (p : Path) : Leaves view (textAt p) :=
  (leaves_bytesAt p).bind fun _ => leaves_ofExcept _ _

theorem leaves_change (path : Text) {f : FileTree → Except FileTree.Problem FileTree}
    (hf : ∀ w tree, f w.tree = .ok tree → view { w with tree } = view w) :
    Leaves view (change path f) := by
  intro w
  rcases h : f w.tree with e | tree
  · rw [runOn_change_of_error h]
  · rw [runOn_change_of_ok h]
    exact hf w tree h

/-- What the making of a directory does not touch, the making of a way does not touch. -/
theorem leaves_makeWay
    (hview : ∀ (p : Path) w tree, w.tree.makeDirectory p = .ok tree →
      view { w with tree } = view w) (start : Path.Start) :
    ∀ names : List Text, Leaves view (makeWay start names)
  | [] => leaves_pure ()
  | name :: names => by
    have ih := leaves_makeWay hview start names
    intro w
    let p : Path := ⟨start, (name :: names).reverse⟩
    have hchange : Leaves view (change p.toText (·.makeDirectory p)) := leaves_change _ (hview p)
    rw [makeWay, runOn_get_bind]
    split
    · exact ih.bind (fun _ => hchange) w
    · exact (leaves_pure ()).bind (fun _ => hchange) w

theorem leaves_makeDirectories (p : Path)
    (hview : ∀ (p : Path) w tree, w.tree.makeDirectory p = .ok tree →
      view { w with tree } = view w) : Leaves view (makeDirectories p) :=
  leaves_makeWay hview _ _

/-- What the writing of a file does not touch, the writing of a text to it does not touch. -/
theorem leaves_putText {p : Path}
    (hview : ∀ content w tree, w.tree.write p content = .ok tree → view { w with tree } = view w)
    (t : WideText) : Leaves view (putText p t) := by
  rcases h : t.narrow with halves | u
  · rw [putText_of_error h]
    exact (leaves_change _ (hview [])).bind fun _ =>
      leaves_ofExcept Failure.unencodable (.error halves)
  · rw [WideText.narrow_eq_ok.1 h, putText_wide]
    exact leaves_change _ (hview _)

/-- A file is left alone by writing elsewhere. -/
theorem leaves_putText_of_ne {p q : Path} (hq : ∀ here, q.place here ≠ p.place here)
    (t : WideText) : Leaves (fun w => w.tree.fileAt? q) (putText p t) :=
  leaves_putText (fun _ w _ h => (FileTree.keeps_write h).fileAt? (hq w.tree.here)) t

/-- No file is touched when directories are made. -/
theorem leaves_file_makeDirectories (p q : Path) :
    Leaves (fun w => w.tree.fileAt? q) (makeDirectories p) :=
  leaves_makeDirectories p fun _ _ _ h =>
    (FileTree.keeps_makeDirectory h fun _ => False).fileAt? not_false

end Leaving

/-! ## Failing -/

/-- The action changes no file when it fails. -/
def Atomic (x : Action α) : Prop :=
  ∀ w e w', x.runOn w = (.error e, w') → w'.tree = w.tree

section Atomic

variable {x : Action α} {f : α → Action β}

theorem Reading.atomic (hx : Reading x) : Atomic x := fun _ _ _ h => hx.tree_eq h

theorem atomic_change (path : Text) (g : FileTree → Except FileTree.Problem FileTree) :
    Atomic (change path g) := fun _ _ _ h => congrArg World.tree (change_error h)

theorem atomic_putText_wide (p : Path) (t : Text) : Atomic (putText p t.wide) := by
  rw [putText_wide]
  exact atomic_change _ _

theorem Reading.bind_atomic (hx : Reading x) (hf : ∀ a, Atomic (f a)) : Atomic (x >>= f) := by
  intro w e w' h
  rcases runOn_bind_error.1 h with h | ⟨a, w₁, hrun, h⟩
  · exact hx.atomic w e w' h
  · exact (hf a w₁ e w' h).trans (hx.tree_eq hrun)

/-- What cannot fail may come behind. -/
theorem Atomic.bind_pure (hx : Atomic x) (g : α → β) : Atomic (x >>= fun a => pure (g a)) := by
  intro w e w' h
  rcases runOn_bind_error.1 h with h | ⟨a, w₁, -, h⟩
  · exact hx w e w' h
  · cases h

end Atomic

end Phrasebook.Action
