import Phrasebook.Text.Utf8
import Mathlib.Data.List.Induction
import Mathlib.Tactic.SplitIfs

/-!
# Encoding and decoding

A text and its bytes stand for each other: decoding gives back the text that was encoded, and bytes
that can be decoded are the encoding of what they hold (`decode_eq_ok`). For the first, the bytes of
each character are read one by one (`read_encodeChar`). For the second, what the decoder has read at
any time is the encoding of its text with the bytes of the sequence it is in (`Decoder.Holds`).
-/

namespace Phrasebook.Text.Utf8

/-! ## Bytes -/

theorem toNat_toUInt8 {n : Nat} (h : n < 256) : n.toUInt8.toNat = n := by
  rw [Nat.toUInt8, UInt8.toNat_ofNat', Nat.mod_eq_of_lt h]

theorem toUInt8_eq {n : Nat} {b : UInt8} (h : n = b.toNat) : n.toUInt8 = b := by
  rw [h, Nat.toUInt8, UInt8.ofNat_toNat]

/-- Code points are the numbers below the surrogates and behind them. -/
theorem toNat_char (c : Char) : c.toNat < 0xd800 ∨ 0xdfff < c.toNat ∧ c.toNat < 0x110000 :=
  c.valid

theorem toNat_ofNat {n : Nat} (h : n < 0xd800 ∨ 0xdfff < n ∧ n < 0x110000) :
    (Char.ofNat n).toNat = n := by
  have hv : n.isValidChar := h
  rw [Char.ofNat, dif_pos hv]
  rfl

/-! ## Single bytes -/

/-- The sequence with one more byte. -/
def Pending.next (p : Pending) (b : UInt8) : Pending :=
  ⟨p.lead, p.length + 1, p.missing - 1, p.bits * 64 + (b.toNat - 0x80), 0x80, 0xbf⟩

namespace Decoder

variable {o : Nat} {ps : List Piece} {p : Pending} {b : UInt8}

theorem read_ascii (hb : b.toNat < 0x80) :
    read ⟨o, none, ps⟩ b = ⟨o + 1, none, .char (Char.ofNat b.toNat) :: ps⟩ := by
  simp only [read, begin, hb, if_true]

theorem read_lead (hp : Pending.ofLead? b = some p) :
    read ⟨o, none, ps⟩ b = ⟨o + 1, some p, ps⟩ := by
  have hb : ¬ b.toNat < 0x80 := by
    intro hb
    unfold Pending.ofLead? at hp
    dsimp only at hp
    split_ifs at hp <;> omega
  simp only [read, begin, hb, if_false, hp]

theorem read_next (hb : p.low ≤ b.toNat ∧ b.toNat ≤ p.high) (hp : p.missing ≠ 1) :
    read ⟨o, some p, ps⟩ b = ⟨o + 1, some (p.next b), ps⟩ := by
  simp only [read, hb, hp, and_self, if_true, if_false]
  rfl

theorem read_last (hb : p.low ≤ b.toNat ∧ b.toNat ≤ p.high) (hp : p.missing = 1) :
    read ⟨o, some p, ps⟩ b = ⟨o + 1, none, .char (Char.ofNat (p.next b).bits) :: ps⟩ := by
  simp only [read, hb, hp, and_self, if_true]
  rfl

end Decoder

/-! ## Whole characters -/

section Chars

variable {n : Nat} (o : Nat) (ps : List Piece)

theorem toNat_tail (n : Nat) : (0x80 + n % 64).toUInt8.toNat = 0x80 + n % 64 :=
  toNat_toUInt8 (by omega)

theorem read_two (h1 : 0x80 ≤ n) (h2 : n < 0x800) :
    [(0xc0 + n / 64).toUInt8, (0x80 + n % 64).toUInt8].foldl Decoder.read ⟨o, none, ps⟩
      = ⟨o + 2, none, .char (Char.ofNat n) :: ps⟩ := by
  have hb : (0xc0 + n / 64).toUInt8.toNat = 0xc0 + n / 64 := toNat_toUInt8 (by omega)
  have hlead : Pending.ofLead? (0xc0 + n / 64).toUInt8
      = some ⟨(0xc0 + n / 64).toUInt8, 1, 1, n / 64, 0x80, 0xbf⟩ := by
    rw [Pending.ofLead?, hb, if_pos (by omega), Nat.add_sub_cancel_left]
  have hbits : n / 64 * 64 + (0x80 + n % 64 - 0x80) = n := by omega
  simp only [List.foldl_cons, List.foldl_nil]
  rw [Decoder.read_lead hlead, Decoder.read_last]
  · simp only [Pending.next, toNat_tail, hbits]
  · dsimp only
    rw [toNat_tail]
    omega
  · rfl

theorem read_three (h1 : 0x800 ≤ n) (h2 : n < 0x10000) (hn : n < 0xd800 ∨ 0xdfff < n) :
    [(0xe0 + n / 4096).toUInt8, (0x80 + n / 64 % 64).toUInt8, (0x80 + n % 64).toUInt8].foldl
      Decoder.read ⟨o, none, ps⟩ = ⟨o + 3, none, .char (Char.ofNat n) :: ps⟩ := by
  have hb : (0xe0 + n / 4096).toUInt8.toNat = 0xe0 + n / 4096 := toNat_toUInt8 (by omega)
  obtain ⟨low, high, hlead, hlow⟩ : ∃ low high, Pending.ofLead? (0xe0 + n / 4096).toUInt8
      = some ⟨(0xe0 + n / 4096).toUInt8, 1, 2, n / 4096, low, high⟩
        ∧ (low ≤ 0x80 + n / 64 % 64 ∧ 0x80 + n / 64 % 64 ≤ high) := by
    simp only [Pending.ofLead?, hb, Nat.add_sub_cancel_left]
    split_ifs with _ h3 h4
    · omega
    · exact ⟨_, _, by rw [show n / 4096 = 0 by omega], by omega⟩
    · exact ⟨_, _, by rw [show n / 4096 = 13 by omega], by omega⟩
    · exact ⟨_, _, rfl, by omega⟩
    all_goals omega
  have hbits : (n / 4096 * 64 + (0x80 + n / 64 % 64 - 0x80)) * 64 + (0x80 + n % 64 - 0x80) = n := by
    omega
  simp only [List.foldl_cons, List.foldl_nil]
  rw [Decoder.read_lead hlead, Decoder.read_next, Decoder.read_last]
  · simp only [Pending.next, toNat_tail, hbits]
  · simp only [Pending.next, toNat_tail]
    omega
  · rfl
  · rwa [toNat_tail]
  · simp

theorem read_four (h1 : 0x10000 ≤ n) (h2 : n < 0x110000) :
    [(0xf0 + n / 262144).toUInt8, (0x80 + n / 4096 % 64).toUInt8, (0x80 + n / 64 % 64).toUInt8,
      (0x80 + n % 64).toUInt8].foldl Decoder.read ⟨o, none, ps⟩
      = ⟨o + 4, none, .char (Char.ofNat n) :: ps⟩ := by
  have hb : (0xf0 + n / 262144).toUInt8.toNat = 0xf0 + n / 262144 := toNat_toUInt8 (by omega)
  obtain ⟨low, high, hlead, hlow⟩ : ∃ low high, Pending.ofLead? (0xf0 + n / 262144).toUInt8
      = some ⟨(0xf0 + n / 262144).toUInt8, 1, 3, n / 262144, low, high⟩
        ∧ (low ≤ 0x80 + n / 4096 % 64 ∧ 0x80 + n / 4096 % 64 ≤ high) := by
    simp only [Pending.ofLead?, hb, Nat.add_sub_cancel_left]
    split_ifs
    iterate 4 omega
    · exact ⟨_, _, by rw [show n / 262144 = 0 by omega], by omega⟩
    · exact ⟨_, _, rfl, by omega⟩
    · exact ⟨_, _, by rw [show n / 262144 = 4 by omega], by omega⟩
    · omega
  have hbits : ((n / 262144 * 64 + (0x80 + n / 4096 % 64 - 0x80)) * 64
      + (0x80 + n / 64 % 64 - 0x80)) * 64 + (0x80 + n % 64 - 0x80) = n := by omega
  simp only [List.foldl_cons, List.foldl_nil]
  rw [Decoder.read_lead hlead, Decoder.read_next, Decoder.read_next, Decoder.read_last]
  · simp only [Pending.next, toNat_tail, hbits]
  · simp only [Pending.next, toNat_tail]
    omega
  · rfl
  · simp only [Pending.next, toNat_tail]
    omega
  · simp [Pending.next]
  · rwa [toNat_tail]
  · simp

/-- The bytes of a character are read as that character. -/
theorem read_encodeChar (c : Char) : (encodeChar c).foldl Decoder.read ⟨o, none, ps⟩
    = ⟨o + (encodeChar c).length, none, .char c :: ps⟩ := by
  have hc := toNat_char c
  have hnat := Char.ofNat_toNat c
  unfold encodeChar
  dsimp only
  split_ifs with h1 h2 h3
  · have hb : c.toNat.toUInt8.toNat = c.toNat := toNat_toUInt8 (by omega)
    rw [List.foldl_cons, List.foldl_nil, Decoder.read_ascii (by omega), hb, hnat]
    rfl
  · rw [read_two o ps (by omega) h2, hnat]
    rfl
  · rw [read_three o ps (by omega) h3 (by omega), hnat]
    rfl
  · rw [read_four o ps (by omega) (by omega), hnat]
    rfl

end Chars

/-! ## Whole texts -/

theorem read_encode : ∀ (t : Text) (o : Nat) (ps : List Piece), ∃ o',
    (encode t).foldl Decoder.read ⟨o, none, ps⟩ = ⟨o', none, (t.map .char).reverse ++ ps⟩
  | [], o, ps => ⟨o, rfl⟩
  | c :: t, o, ps => by
    obtain ⟨o', ih⟩ := read_encode t (o + (encodeChar c).length) (.char c :: ps)
    refine ⟨o', ?_⟩
    rw [encode, List.flatMap_cons, List.foldl_append, read_encodeChar, ← encode, ih]
    simp

/-- The text behind a piece that was read before it. -/
def Piece.before (text : Except Malformed Text) : Piece → Except Malformed Text
  | .char c => text.map (c :: ·)
  | .malformed m => .error m

theorem Decoder.text?_eq (d : Decoder) : d.text? = d.pieces.foldl Piece.before (.ok []) := by
  rfl

theorem foldl_before_chars : ∀ t : Text,
    ((t.map Piece.char).reverse).foldl Piece.before (.ok []) = .ok t
  | [] => rfl
  | c :: t => by
    rw [List.map_cons, List.reverse_cons, List.foldl_append, foldl_before_chars t]
    rfl

theorem encode_append (t u : Text) : encode (t ++ u) = encode t ++ encode u :=
  List.flatMap_append

theorem decode_encode (t : Text) : decode (encode t) = .ok t := by
  obtain ⟨o, h⟩ := read_encode t 0 []
  have hd : (encode t).foldl Decoder.read {} = ⟨o, none, (t.map .char).reverse⟩ := by
    simpa using h
  rw [decode, hd]
  exact (Decoder.text?_eq _).trans (foldl_before_chars t)

/-! ## Writing what was read -/

/-- What a first byte promises: how many bytes follow, and which numbers they may make. -/
theorem ofLead?_eq_some {b : UInt8} {p : Pending} (h : Pending.ofLead? b = some p) :
    (p.missing = 1 ∧ p.bits = b.toNat - 0xc0 ∧ 0xc2 ≤ b.toNat ∧ b.toNat < 0xe0
        ∧ 0x80 ≤ p.low ∧ p.high ≤ 0xbf)
      ∨ (p.missing = 2 ∧ p.bits = b.toNat - 0xe0 ∧ 0xe0 ≤ b.toNat ∧ b.toNat < 0xf0
        ∧ 0x80 ≤ p.low ∧ p.high ≤ 0xbf
        ∧ (b.toNat = 0xe0 → 0xa0 ≤ p.low) ∧ (b.toNat = 0xed → p.high ≤ 0x9f))
      ∨ (p.missing = 3 ∧ p.bits = b.toNat - 0xf0 ∧ 0xf0 ≤ b.toNat ∧ b.toNat < 0xf5
        ∧ 0x80 ≤ p.low ∧ p.high ≤ 0xbf
        ∧ (b.toNat = 0xf0 → 0x90 ≤ p.low) ∧ (b.toNat = 0xf4 → p.high ≤ 0x8f)) := by
  unfold Pending.ofLead? at h
  dsimp only at h
  split_ifs at h <;> obtain rfl := Option.some.inj h <;> dsimp only <;> omega

/-- The bytes of a sequence that has begun. -/
inductive Pending.Begun : Bytes → Pending → Prop
  | lead {b : UInt8} {p : Pending} (h : ofLead? b = some p) : Begun [b] p
  | next {bs : Bytes} {p : Pending} {b : UInt8} (h : Begun bs p)
    (hb : p.low ≤ b.toNat ∧ b.toNat ≤ p.high) (hp : p.missing ≠ 1) : Begun (bs ++ [b]) (p.next b)

theorem encodeChar_ofNat {n : Nat} (h : n < 0xd800 ∨ 0xdfff < n ∧ n < 0x110000) :
    encodeChar (Char.ofNat n) =
      if n < 0x80 then [n.toUInt8]
      else if n < 0x800 then [(0xc0 + n / 64).toUInt8, (0x80 + n % 64).toUInt8]
      else if n < 0x10000 then
        [(0xe0 + n / 4096).toUInt8, (0x80 + n / 64 % 64).toUInt8, (0x80 + n % 64).toUInt8]
      else
        [(0xf0 + n / 262144).toUInt8, (0x80 + n / 4096 % 64).toUInt8, (0x80 + n / 64 % 64).toUInt8,
          (0x80 + n % 64).toUInt8] := by
  rw [encodeChar, toNat_ofNat h]

theorem Pending.Begun.missing_le {bs : Bytes} {p : Pending} (h : Begun bs p) : p.missing ≤ 3 := by
  induction h with
  | lead h =>
    have := ofLead?_eq_some h
    omega
  | next _ _ _ ih => exact Nat.le_trans (Nat.sub_le _ _) ih

/-- The character that a sequence makes is written as that sequence. -/
theorem Pending.Begun.encodeChar_next {bs : Bytes} {p : Pending} (h : Begun bs p) {b : UInt8}
    (hb : p.low ≤ b.toNat ∧ b.toNat ≤ p.high) (hp : p.missing = 1) :
    encodeChar (Char.ofNat (p.next b).bits) = bs ++ [b] := by
  cases h with
  | @lead b₁ _ h =>
    have hlead := ofLead?_eq_some h
    simp only [Pending.next]
    generalize hn : p.bits * 64 + (b.toNat - 0x80) = n
    rw [encodeChar_ofNat (by omega), if_neg (by omega), if_pos (by omega),
      toUInt8_eq (b := b₁) (by omega), toUInt8_eq (b := b) (by omega)]
    rfl
  | @next _ p₂ b₂ h hb₂ hp₂ =>
    simp only [Pending.next] at hb hp ⊢
    cases h with
    | @lead b₁ _ h =>
      have hlead := ofLead?_eq_some h
      generalize hn : (p₂.bits * 64 + (b₂.toNat - 0x80)) * 64 + (b.toNat - 0x80) = n
      rw [encodeChar_ofNat (by omega), if_neg (by omega), if_neg (by omega), if_pos (by omega),
        toUInt8_eq (b := b₁) (by omega), toUInt8_eq (b := b₂) (by omega),
        toUInt8_eq (b := b) (by omega)]
      rfl
    | @next _ p₃ b₃ h hb₃ hp₃ =>
      simp only [Pending.next] at hb₂ hp₂ hp ⊢
      cases h with
      | @lead b₁ _ h =>
        have hlead := ofLead?_eq_some h
        generalize hn : ((p₃.bits * 64 + (b₃.toNat - 0x80)) * 64 + (b₂.toNat - 0x80)) * 64
          + (b.toNat - 0x80) = n
        rw [encodeChar_ofNat (by omega), if_neg (by omega), if_neg (by omega), if_neg (by omega),
          toUInt8_eq (b := b₁) (by omega), toUInt8_eq (b := b₃) (by omega),
          toUInt8_eq (b := b₂) (by omega), toUInt8_eq (b := b) (by omega)]
        rfl
      | next h _ _ =>
        have := h.missing_le
        simp only [Pending.next] at hp
        omega

theorem foldl_before_error (m : Malformed) : ∀ ps : List Piece,
    ∃ m', ps.foldl Piece.before (.error m) = .error m'
  | [] => ⟨m, rfl⟩
  | .char _ :: ps => foldl_before_error m ps
  | .malformed m :: ps => foldl_before_error m ps

/-- The text of some pieces goes before the text behind them. -/
theorem foldl_before_ok (t : Text) : ∀ ps : List Piece,
    ps.foldl Piece.before (.ok t) = (ps.foldl Piece.before (.ok [])).map (· ++ t)
  | [] => rfl
  | .char c :: ps => by
    have h1 := foldl_before_ok (c :: t) ps
    have h2 := foldl_before_ok [c] ps
    simp only [List.foldl_cons, Piece.before, Except.map] at h1 h2 ⊢
    rw [h1, h2]
    rcases ps.foldl Piece.before (.ok []) with e | u <;> simp
  | .malformed m :: ps => by
    obtain ⟨m', h⟩ := foldl_before_error m ps
    simp only [List.foldl_cons, Piece.before, h, Except.map]

namespace Decoder

variable {o : Nat} {p : Option Pending} {ps : List Piece} {t : Text}

theorem text?_char {c : Char} (h : text? ⟨o, p, .char c :: ps⟩ = .ok t) (o' : Nat)
    (p' : Option Pending) : ∃ u, text? ⟨o', p', ps⟩ = .ok u ∧ t = u ++ [c] := by
  simp only [text?_eq, List.foldl_cons, Piece.before, Except.map] at h ⊢
  rw [foldl_before_ok] at h
  rcases hps : ps.foldl Piece.before (.ok []) with e | u
  · rw [hps] at h
    cases h
  · rw [hps] at h
    exact ⟨u, rfl, (Except.ok.inj h).symm⟩

theorem text?_malformed {m : Malformed} : text? ⟨o, p, .malformed m :: ps⟩ ≠ .ok t := by
  obtain ⟨m', h⟩ := foldl_before_error m ps
  simp only [text?_eq, List.foldl_cons, Piece.before, h]
  exact nofun

/-- The bytes read are those of the text read and those of the sequence that has begun. -/
def Holds (d : Decoder) (bytes : Bytes) (t : Text) : Prop :=
  match d.pending with
  | none => encode t = bytes
  | some p => ∃ bs, p.Begun bs ∧ encode t ++ bs = bytes

theorem encode_concat (t : Text) (c : Char) : encode (t ++ [c]) = encode t ++ encodeChar c := by
  simp [encode]

theorem begin_ok {b : UInt8} (h : (begin ⟨o, none, ps⟩ b).text? = .ok t) :
    ∃ u, text? ⟨o, none, ps⟩ = .ok u ∧ (begin ⟨o, none, ps⟩ b).Holds (encode u ++ [b]) t := by
  unfold begin at h ⊢
  split_ifs at h ⊢ with hb
  · obtain ⟨u, hu, rfl⟩ := text?_char h o none
    refine ⟨u, hu, (encode_concat u _).trans ?_⟩
    rw [encodeChar_ofNat (by omega), if_pos hb, toUInt8_eq rfl]
  · rcases hp : Pending.ofLead? b with _ | p <;> rw [hp] at h
    · exact absurd h text?_malformed
    · exact ⟨t, h, [b], .lead hp, rfl⟩

theorem holds_foldl_read (bytes : Bytes) :
    ∀ t, (bytes.foldl read {}).text? = .ok t → (bytes.foldl read {}).Holds bytes t := by
  induction bytes using List.reverseRecOn with
  | nil =>
    intro t h
    obtain rfl := Except.ok.inj h
    rfl
  | append_singleton bytes b ih =>
    intro t h
    rw [List.foldl_append, List.foldl_cons, List.foldl_nil] at h ⊢
    generalize bytes.foldl read {} = d at h ih ⊢
    obtain ⟨o, p, ps⟩ := d
    unfold read at h ⊢
    dsimp only at h ⊢
    rcases p with _ | p
    · obtain ⟨u, hu, hholds⟩ := begin_ok h
      rwa [show encode u = bytes from ih u hu] at hholds
    · dsimp only at h ⊢
      split_ifs at h ⊢ with hb hp
      · obtain ⟨u, hu, rfl⟩ := text?_char h o (some p)
        obtain ⟨bs, hbs, rfl⟩ := ih u hu
        refine (encode_concat u _).trans ?_
        rw [List.append_assoc]
        exact congrArg _ (hbs.encodeChar_next hb hp)
      · obtain ⟨bs, hbs, rfl⟩ := ih t h
        exact ⟨bs ++ [b], hbs.next hb hp, (List.append_assoc ..).symm⟩
      · obtain ⟨u, hu, -⟩ := begin_ok h
        exact absurd hu text?_malformed

end Decoder

theorem encode_of_decode {bytes : Bytes} {t : Text} (h : decode bytes = .ok t) :
    encode t = bytes := by
  have hholds := Decoder.holds_foldl_read bytes
  unfold decode at h
  generalize bytes.foldl Decoder.read {} = d at h hholds
  obtain ⟨o, p | p, ps⟩ := d
  · exact hholds t h
  · exact absurd h Decoder.text?_malformed

/-- A text and its bytes stand for each other. -/
theorem decode_eq_ok {bytes : Bytes} {t : Text} : decode bytes = .ok t ↔ encode t = bytes :=
  ⟨encode_of_decode, fun h => h ▸ decode_encode t⟩

end Phrasebook.Text.Utf8
