import Mathlib.Tactic.SplitIfs
import SandboxImage.Text.Utf8

/-!
# Bytes of texts

The bytes that are read as a text are those that the text is written as
(`Text.decode?_eq_some_iff`). Both ways it is enough to look at the first character: what is written
for it is read as it (`Text.firstPiece_encodeChar`), and nothing else is
(`Text.encodeChar_of_firstPiece`). The induction is on the characters, or on the units of the bytes.
-/

namespace SandboxImage.Text

open String (utf8EncodeChar)

variable {b low high : UInt8} {rest : Bytes}

/-! ## First bytes and those that follow -/

theorem lead_two (h : 0xC2 ≤ b.toNat) (h' : b.toNat ≤ 0xDF) :
    lead? b = some ⟨1, 0x80, 0xBF, b.toNat - 0xC0⟩ := by
  simp [lead?, h, h']

theorem lead_three (h : 0xE0 ≤ b.toNat) (h' : b.toNat ≤ 0xEF) :
    lead? b = some ⟨2, if b.toNat = 0xE0 then 0xA0 else 0x80,
      if b.toNat = 0xED then 0x9F else 0xBF, b.toNat - 0xE0⟩ := by
  have htwo : ¬ b.toNat ≤ 0xDF := by omega
  unfold lead?
  by_cases hfirst : b.toNat = 0xE0
  · simp [hfirst]
  · by_cases hlast : b.toNat = 0xED
    · simp [hlast]
    · have h1 : 0xE1 ≤ b.toNat := by omega
      simp [htwo, hfirst, hlast, h1, h']

theorem lead_four (h : 0xF0 ≤ b.toNat) (h' : b.toNat ≤ 0xF4) :
    lead? b = some ⟨3, if b.toNat = 0xF0 then 0x90 else 0x80,
      if b.toNat = 0xF4 then 0x8F else 0xBF, b.toNat - 0xF0⟩ := by
  have hcases : b.toNat = 0xF0 ∨ b.toNat = 0xF1 ∨ b.toNat = 0xF2 ∨ b.toNat = 0xF3 ∨
      b.toNat = 0xF4 := by omega
  unfold lead?
  rcases hcases with h | h | h | h | h <;> simp [h]

theorem lead_none (h : b.toNat < 0xC2 ∨ 0xF4 < b.toNat) : lead? b = none := by
  unfold lead?
  simp only [Bool.and_eq_true, decide_eq_true_eq, beq_iff_eq]
  split_ifs <;> first | rfl | omega

theorem follow_cons (h : low.toNat ≤ b.toNat) (h' : b.toNat ≤ high.toNat) (k acc taken : Nat)
    (rest : Bytes) : follow (k + 1) low high acc taken (b :: rest) =
      follow k 0x80 0xBF (acc * 64 + (b.toNat - 0x80)) (taken + 1) rest := by
  rw [← UInt8.le_iff_toNat_le] at h h'
  simp [follow, h, h']

theorem exists_of_follow {k acc taken n : Nat}
    (h : follow (k + 1) low high acc taken rest = .ok n) :
    ∃ b rest', rest = b :: rest' ∧ low.toNat ≤ b.toNat ∧ b.toNat ≤ high.toNat ∧
      follow k 0x80 0xBF (acc * 64 + (b.toNat - 0x80)) (taken + 1) rest' = .ok n := by
  match rest with
  | [] => cases h
  | b :: rest' =>
    rw [follow] at h
    split at h
    next hb =>
      simp only [Bool.and_eq_true, decide_eq_true_eq, UInt8.le_iff_toNat_le] at hb
      exact ⟨b, rest', rfl, hb.1, hb.2, h⟩
    next => cases h

theorem firstPiece_of_follow {l : Lead} {n : Nat} (hb : 0x80 ≤ b.toNat) (hl : lead? b = some l)
    (hf : follow l.following l.low l.high l.bits 0 rest = .ok n) :
    firstPiece b rest = (.char (Char.ofNat n), l.following) := by
  have hlarge : ¬ b < 0x80 := by simpa [UInt8.lt_iff_toNat_lt] using hb
  simp [firstPiece, hlarge, hl, hf]

theorem follow_trail {t : UInt8} (ht : 0x80 ≤ t.toNat ∧ t.toNat ≤ 0xBF) (k acc taken : Nat)
    (rest : Bytes) : follow (k + 1) 0x80 0xBF acc taken (t :: rest) =
      follow k 0x80 0xBF (acc * 64 + (t.toNat - 0x80)) (taken + 1) rest := by
  apply follow_cons
  · exact ht.1
  · exact ht.2

section

variable {t u w : UInt8} (ht : 0x80 ≤ t.toNat ∧ t.toNat ≤ 0xBF)
  (hu : 0x80 ≤ u.toNat ∧ u.toNat ≤ 0xBF) (hw : 0x80 ≤ w.toNat ∧ w.toNat ≤ 0xBF)

include ht in
theorem firstPiece_two (hb : 0xC2 ≤ b.toNat) (hb' : b.toNat ≤ 0xDF) :
    firstPiece b (t :: rest) =
      (.char (Char.ofNat ((b.toNat - 0xC0) * 64 + (t.toNat - 0x80))), 1) := by
  refine firstPiece_of_follow (by omega) (lead_two hb hb') ?_
  dsimp only
  rw [follow_trail ht, follow]

include ht hu in
theorem firstPiece_three (hb : 0xE0 ≤ b.toNat) (hb' : b.toNat ≤ 0xEF)
    (hlow : b.toNat = 0xE0 → 0xA0 ≤ t.toNat) (hhigh : b.toNat = 0xED → t.toNat ≤ 0x9F) :
    firstPiece b (t :: u :: rest) =
      (.char (Char.ofNat (((b.toNat - 0xE0) * 64 + (t.toNat - 0x80)) * 64 + (u.toNat - 0x80))),
        2) := by
  refine firstPiece_of_follow (by omega) (lead_three hb hb') ?_
  dsimp only
  rw [follow_cons, follow_trail hu, follow]
  · split_ifs with h
    · exact hlow h
    · exact ht.1
  · split_ifs with h
    · exact hhigh h
    · exact ht.2

include ht hu hw in
theorem firstPiece_four (hb : 0xF0 ≤ b.toNat) (hb' : b.toNat ≤ 0xF4)
    (hlow : b.toNat = 0xF0 → 0x90 ≤ t.toNat) (hhigh : b.toNat = 0xF4 → t.toNat ≤ 0x8F) :
    firstPiece b (t :: u :: w :: rest) =
      (.char (Char.ofNat ((((b.toNat - 0xF0) * 64 + (t.toNat - 0x80)) * 64 +
        (u.toNat - 0x80)) * 64 + (w.toNat - 0x80))), 3) := by
  refine firstPiece_of_follow (by omega) (lead_four hb hb') ?_
  dsimp only
  rw [follow_cons, follow_trail hu, follow_trail hw, follow]
  · split_ifs with h
    · exact hlow h
    · exact ht.1
  · split_ifs with h
    · exact hhigh h
    · exact ht.2

end

/-! ## Characters -/

theorem toNat_ofNat_of_lt {n : Nat} (h : n < 256) : (UInt8.ofNat n).toNat = n := by
  rw [UInt8.toNat_ofNat']
  omega

theorem toNat_trail (n : Nat) : (UInt8.ofNat (n % 64 + 128)).toNat = n % 64 + 128 :=
  toNat_ofNat_of_lt (by omega)

theorem trail_range (n : Nat) :
    0x80 ≤ (UInt8.ofNat (n % 64 + 128)).toNat ∧ (UInt8.ofNat (n % 64 + 128)).toNat ≤ 0xBF := by
  rw [toNat_trail]
  omega

/-- What is written for a character is read as it. -/
theorem firstPiece_encodeChar (c : Char) (rest : Bytes) : ∃ b tail,
    utf8EncodeChar c = b :: tail ∧ firstPiece b (tail ++ rest) = (.char c, tail.length) := by
  have hvalid : c.val.toNat < 0xD800 ∨ 0xDFFF < c.val.toNat ∧ c.val.toNat < 0x110000 := c.valid
  have hc : ∀ n, n = c.val.toNat → Char.ofNat n = c := by
    rintro _ rfl
    exact Char.ofNat_toNat c
  rw [utf8EncodeChar]
  generalize c.val.toNat = v at hvalid hc
  split_ifs with hone htwo hthree
  · refine ⟨_, [], rfl, ?_⟩
    have hb : (UInt8.ofNat v).toNat = v := toNat_ofNat_of_lt (by omega)
    have hsmall : UInt8.ofNat v < 0x80 := by
      rw [UInt8.lt_iff_toNat_lt, hb]
      exact Nat.lt_of_le_of_lt hone (by decide)
    rw [firstPiece, if_pos hsmall, hc _ hb]
    rfl
  · refine ⟨_, _, rfl, ?_⟩
    have hb : (UInt8.ofNat (v / 64 % 32 + 192)).toNat = v / 64 + 192 := by
      rw [toNat_ofNat_of_lt (by omega)]
      omega
    rw [List.cons_append, firstPiece_two (trail_range v) (by omega) (by omega), hc]
    · rfl
    · rw [hb, toNat_trail]
      omega
  · refine ⟨_, _, rfl, ?_⟩
    have hb : (UInt8.ofNat (v / 4096 % 16 + 224)).toNat = v / 4096 + 224 := by
      rw [toNat_ofNat_of_lt (by omega)]
      omega
    have ht := toNat_trail (v / 64)
    rw [List.cons_append, List.cons_append, firstPiece_three (trail_range (v / 64)) (trail_range v)
      (by omega) (by omega) (by omega) (by omega), hc]
    · rfl
    · rw [hb, ht, toNat_trail]
      omega
  · refine ⟨_, _, rfl, ?_⟩
    have hb : (UInt8.ofNat (v / 262144 % 8 + 240)).toNat = v / 262144 + 240 := by
      rw [toNat_ofNat_of_lt (by omega)]
      omega
    have ht := toNat_trail (v / 4096)
    rw [List.cons_append, List.cons_append, List.cons_append,
      firstPiece_four (trail_range (v / 4096)) (trail_range (v / 64)) (trail_range v)
        (by omega) (by omega) (by omega) (by omega), hc]
    · rfl
    · rw [hb, ht, toNat_trail, toNat_trail]
      omega

theorem toNat_ofNat_of_valid {n : Nat} (h : n.isValidChar) : (Char.ofNat n).val.toNat = n := by
  rw [Char.ofNat, dif_pos h]
  rfl

theorem ofNat_eq_of_toNat {n : Nat} (h : n = b.toNat) : UInt8.ofNat n = b := by
  rw [h, UInt8.ofNat_toNat]

theorem exists_trail {k acc taken n : Nat} (h : follow (k + 1) 0x80 0xBF acc taken rest = .ok n) :
    ∃ t rest', rest = t :: rest' ∧ (0x80 ≤ t.toNat ∧ t.toNat ≤ 0xBF) ∧
      follow k 0x80 0xBF (acc * 64 + (t.toNat - 0x80)) (taken + 1) rest' = .ok n := by
  obtain ⟨t, rest', hrest, hlow, hhigh, h⟩ := exists_of_follow h
  exact ⟨t, rest', hrest, ⟨hlow, hhigh⟩, h⟩

section

variable {t u w : UInt8} {n : Nat} (ht : 0x80 ≤ t.toNat ∧ t.toNat ≤ 0xBF)
  (hu : 0x80 ≤ u.toNat ∧ u.toNat ≤ 0xBF) (hw : 0x80 ≤ w.toNat ∧ w.toNat ≤ 0xBF)

include ht in
theorem encodeChar_two (hb : 0xC2 ≤ b.toNat) (hb' : b.toNat ≤ 0xDF)
    (hn : (b.toNat - 0xC0) * 64 + (t.toNat - 0x80) = n) :
    utf8EncodeChar (Char.ofNat n) = [b, t] := by
  rw [utf8EncodeChar, toNat_ofNat_of_valid (.inl (by omega)), if_neg (by omega),
    if_pos (by omega), ofNat_eq_of_toNat (b := b) (by omega), ofNat_eq_of_toNat (b := t) (by omega)]

include ht hu in
theorem encodeChar_three (hb : 0xE0 ≤ b.toNat) (hb' : b.toNat ≤ 0xEF)
    (hlow : b.toNat = 0xE0 → 0xA0 ≤ t.toNat) (hhigh : b.toNat = 0xED → t.toNat ≤ 0x9F)
    (hn : ((b.toNat - 0xE0) * 64 + (t.toNat - 0x80)) * 64 + (u.toNat - 0x80) = n) :
    utf8EncodeChar (Char.ofNat n) = [b, t, u] := by
  -- the bounds on the second byte leave out what has a shorter form, and the surrogates
  have hvalid : n < 0xD800 ∨ 0xDFFF < n ∧ n < 0x110000 := by omega
  rw [utf8EncodeChar, toNat_ofNat_of_valid hvalid, if_neg (by omega), if_neg (by omega),
    if_pos (by omega), ofNat_eq_of_toNat (b := b) (by omega), ofNat_eq_of_toNat (b := t) (by omega),
    ofNat_eq_of_toNat (b := u) (by omega)]

include ht hu hw in
theorem encodeChar_four (hb : 0xF0 ≤ b.toNat) (hb' : b.toNat ≤ 0xF4)
    (hlow : b.toNat = 0xF0 → 0x90 ≤ t.toNat) (hhigh : b.toNat = 0xF4 → t.toNat ≤ 0x8F)
    (hn : (((b.toNat - 0xF0) * 64 + (t.toNat - 0x80)) * 64 + (u.toNat - 0x80)) * 64 +
      (w.toNat - 0x80) = n) :
    utf8EncodeChar (Char.ofNat n) = [b, t, u, w] := by
  have hvalid : n < 0xD800 ∨ 0xDFFF < n ∧ n < 0x110000 := by omega
  rw [utf8EncodeChar, toNat_ofNat_of_valid hvalid, if_neg (by omega), if_neg (by omega),
    if_neg (by omega), ofNat_eq_of_toNat (b := b) (by omega),
    ofNat_eq_of_toNat (b := t) (by omega), ofNat_eq_of_toNat (b := u) (by omega),
    ofNat_eq_of_toNat (b := w) (by omega)]

end

theorem encodeChar_of_follow {l : Lead} {n : Nat} (hl : lead? b = some l)
    (h : follow l.following l.low l.high l.bits 0 rest = .ok n) :
    utf8EncodeChar (Char.ofNat n) ++ rest.drop l.following = b :: rest := by
  have hcases : (b.toNat < 0xC2 ∨ 0xF4 < b.toNat) ∨ (0xC2 ≤ b.toNat ∧ b.toNat ≤ 0xDF) ∨
      (0xE0 ≤ b.toNat ∧ b.toNat ≤ 0xEF) ∨ 0xF0 ≤ b.toNat ∧ b.toNat ≤ 0xF4 := by omega
  rcases hcases with hnone | ⟨hb, hb'⟩ | ⟨hb, hb'⟩ | ⟨hb, hb'⟩
  · rw [lead_none hnone] at hl
    cases hl
  · rw [lead_two hb hb'] at hl
    cases hl
    obtain ⟨t, rest, rfl, ht, h⟩ := exists_trail h
    rw [follow] at h
    rw [encodeChar_two ht hb hb' (Except.ok.inj h)]
    rfl
  · rw [lead_three hb hb'] at hl
    cases hl
    obtain ⟨t, rest, rfl, hlow, hhigh, h⟩ := exists_of_follow h
    obtain ⟨u, rest, rfl, hu, h⟩ := exists_trail h
    rw [follow] at h
    simp only [apply_ite UInt8.toNat, UInt8.reduceToNat] at hlow hhigh
    rw [encodeChar_three (by grind) hu hb hb' (by grind) (by grind) (Except.ok.inj h)]
    rfl
  · rw [lead_four hb hb'] at hl
    cases hl
    obtain ⟨t, rest, rfl, hlow, hhigh, h⟩ := exists_of_follow h
    obtain ⟨u, rest, rfl, hu, h⟩ := exists_trail h
    obtain ⟨w, rest, rfl, hw, h⟩ := exists_trail h
    rw [follow] at h
    simp only [apply_ite UInt8.toNat, UInt8.reduceToNat] at hlow hhigh
    rw [encodeChar_four (by grind) hu hw hb hb' (by grind) (by grind) (Except.ok.inj h)]
    rfl

/-- Only what is written for a character is read as it. -/
theorem encodeChar_of_firstPiece {c : Char} {k : Nat} (h : firstPiece b rest = (.char c, k)) :
    utf8EncodeChar c ++ rest.drop k = b :: rest := by
  unfold firstPiece at h
  split at h
  next hsmall =>
    cases h
    have hsmall : b.toNat < 0x80 := UInt8.lt_iff_toNat_lt.1 hsmall
    rw [utf8EncodeChar, toNat_ofNat_of_valid (.inl (by omega)), if_pos (by omega),
      UInt8.ofNat_toNat]
    rfl
  next hlarge =>
    split at h
    · cases h
    next l hl =>
      split at h
      next n hn =>
        cases h
        exact encodeChar_of_follow hl hn
      next => cases h

/-! ## Texts -/

theorem pieceList_encodeChar (c : Char) (rest : Bytes) :
    pieceList (utf8EncodeChar c ++ rest) = .char c :: pieceList rest := by
  obtain ⟨b, tail, hencode, hpiece⟩ := firstPiece_encodeChar c rest
  rw [hencode, List.cons_append, pieceList, hpiece]
  simp

theorem pieceList_encode (cs : List Char) :
    pieceList (cs.flatMap utf8EncodeChar) = cs.map .char := by
  induction cs with
  | nil => simp [pieceList]
  | cons c cs ih => rw [List.flatMap_cons, pieceList_encodeChar, ih, List.map_cons]

theorem char?_eq_some_iff {piece : Piece} {c : Char} :
    piece.char? = some c ↔ piece = .char c := by
  cases piece <;> simp [Piece.char?]

theorem mapM_char (cs : List Char) : (cs.map Piece.char).mapM Piece.char? = some cs := by
  induction cs with
  | nil => rfl
  | cons c cs ih => simp [Piece.char?, ih]

theorem flatMap_encodeChar_of_mapM {bytes : Bytes} {cs : List Char}
    (h : (pieceList bytes).mapM Piece.char? = some cs) : cs.flatMap utf8EncodeChar = bytes := by
  induction bytes using pieceList.induct generalizing cs with
  | case1 =>
    rw [pieceList] at h
    cases h
    rfl
  | case2 b rest first =>
    rename_i ih
    rw [pieceList, List.mapM_cons] at h
    obtain ⟨c, hc, h⟩ := Option.bind_eq_some_iff.1 h
    obtain ⟨cs, hcs, h⟩ := Option.bind_eq_some_iff.1 h
    cases h
    have hfirst : firstPiece b rest = (.char c, first.2) := Prod.ext (char?_eq_some_iff.1 hc) rfl
    rw [List.flatMap_cons, ih hcs]
    exact encodeChar_of_firstPiece hfirst

/-- Bytes are read as a text exactly if they are those that it is written as. -/
theorem decode?_eq_some_iff {bytes : Bytes} {text : String} :
    decode? bytes = some text ↔ encode text = bytes := by
  constructor
  · intro h
    obtain ⟨cs, hcs, rfl⟩ := Option.map_eq_some_iff.1 h
    rw [encode, String.toList_ofList]
    exact flatMap_encodeChar_of_mapM hcs
  · rintro rfl
    rw [decode?, encode, pieceList_encode, mapM_char, Option.map_some, String.ofList_toList]

theorem decode?_encode (text : String) : decode? (encode text) = some text :=
  decode?_eq_some_iff.2 rfl

theorem decodeLoosely_encode (text : String) : decodeLoosely (encode text) = text := by
  have hloose : Piece.looseChar ∘ Piece.char = id := rfl
  rw [decodeLoosely, encode, pieceList_encode, List.map_map, hloose, List.map_id,
    String.ofList_toList]

end SandboxImage.Text
