import SandboxImage.Proofs.Containerfile.Reading

/-!
# Values of Containerfiles read back

Both ways in which a value is written are undone by reading it, whatever stands after it: the value
between quotes (`Quoting.setting?_append`) and the text in an array (`Json.array?_jsonArray`). What
is written between quotes holds no quote, backslash or dollar that is not escaped
(`Quoting.plain_of_mem_bare`).
-/

namespace SandboxImage

open Instruction

/-! ## Values between quotes -/

namespace Quoting

theorem quotedChar_cases (c : Char) :
    quotedChar c = ['\\', c] ∨ (quotedChar c = [c] ∧ c ≠ '"' ∧ c ≠ '\\' ∧ c ≠ '$') := by
  unfold quotedChar
  split
  next => exact .inl rfl
  next h =>
    simp only [not_or] at h
    exact .inr ⟨rfl, h⟩

theorem between_cons {c : Char} (hquote : c ≠ '"') (hslash : c ≠ '\\') (s : List Char) :
    between (c :: s) = (between s).map fun r => (c :: r.1, r.2) := by
  rw [between] <;> simp_all

theorem resolve_cons {c : Char} (hslash : c ≠ '\\') (s : List Char) :
    resolve (c :: s) = c :: resolve s := by
  rw [resolve]
  simp_all

theorem bare_cons {c : Char} (hslash : c ≠ '\\') (s : List Char) :
    bare (c :: s) = c :: bare s := by
  rw [bare]
  simp_all

/-- The quote after a value is the first one without a backslash. -/
theorem between_flatMap_quotedChar (s rest : List Char) :
    between (s.flatMap quotedChar ++ '"' :: rest) = some (s.flatMap quotedChar, rest) := by
  induction s with
  | nil => rfl
  | cons c s ih =>
    rw [List.flatMap_cons, List.append_assoc]
    rcases quotedChar_cases c with h | ⟨h, hquote, hslash, -⟩
    · rw [h]
      simp [between, ih]
    · rw [h, List.singleton_append, between_cons hquote hslash, ih]
      rfl

theorem resolve_flatMap_quotedChar (s : List Char) : resolve (s.flatMap quotedChar) = s := by
  induction s with
  | nil => rfl
  | cons c s ih =>
    rw [List.flatMap_cons]
    rcases quotedChar_cases c with h | ⟨h, -, hslash, -⟩
    · rw [h]
      simp [resolve, ih]
    · rw [h, List.singleton_append, resolve_cons hslash, ih]

/-- Whatever is not escaped stands for itself. -/
theorem plain_of_mem_bare {s : List Char} {c : Char} (hc : c ∈ bare (s.flatMap quotedChar)) :
    c ≠ '$' ∧ c ≠ '"' ∧ c ≠ '\\' := by
  induction s with
  | nil => cases hc
  | cons d s ih =>
    rw [List.flatMap_cons] at hc
    rcases quotedChar_cases d with h | ⟨h, hquote, hslash, hdollar⟩
    · rw [h] at hc
      exact ih (by simpa [bare] using hc)
    · rw [h, List.singleton_append, bare_cons hslash] at hc
      rcases List.mem_cons.1 hc with rfl | hc
      · exact ⟨hdollar, hquote, hslash⟩
      · exact ih hc

theorem setting?_append {s : String × String} (hname : '=' ∉ s.1.toList) (rest : List Char) :
    setting? (setting s ++ rest) = some ((s.1, written s.2), rest) := by
  have hall : ∀ c ∈ s.1.toList, (c != '=') = true := by
    intro c hc
    simp only [bne_iff_ne]
    rintro rfl
    exact hname hc
  unfold setting? setting quoted
  simp only [List.append_assoc, List.cons_append]
  rw [List.dropWhile_append_of_pos hall, List.takeWhile_append_of_pos hall]
  simp [between_flatMap_quotedChar, written]

theorem settings?_intersperse {settings : List (String × String)} (hne : settings ≠ [])
    (hname : ∀ s ∈ settings, '=' ∉ s.1.toList) :
    settings? ((settings.map setting).intersperse [' ']).flatten =
      some (settings.map fun s => (s.1, written s.2)) := by
  induction settings with
  | nil => exact absurd rfl hne
  | cons s settings ih =>
    rw [settings?]
    cases settings with
    | nil =>
      have h := setting?_append (hname s List.mem_cons_self) []
      rw [List.append_nil] at h
      simp [h]
    | cons t settings =>
      have h := setting?_append (hname s List.mem_cons_self)
      have ih := ih (List.cons_ne_nil _ _) fun u hu => hname u (List.mem_cons_of_mem _ hu)
      simp only [List.map_cons, List.intersperse_cons_cons, List.flatten_cons] at ih ⊢
      rw [h]
      simp only [List.singleton_append]
      rw [if_pos (by simp only [List.length_cons, List.length_append]; omega), ih]
      rfl

end Quoting

/-! ## JSON arrays of texts -/

namespace Json

theorem hexValue?_digitChar {n : Nat} (h : n < 16) : hexValue? (Nat.digitChar n) = some n := by
  have hall : ∀ k : Fin 16, hexValue? (Nat.digitChar k) = some k.val := by decide
  exact hall ⟨n, h⟩

/-- The escapes of control characters have two digits that may not be 0. -/
theorem codeUnit?_digitChar {n : Nat} (h : n < 0x20) (rest : List Char) :
    codeUnit? ('0' :: '0' :: Nat.digitChar (n / 16) :: Nat.digitChar (n % 16) :: rest) =
      some (n, rest) := by
  have hzero : hexValue? '0' = some 0 := by decide
  have hhigh : hexValue? (Nat.digitChar (n / 16)) = some (n / 16) :=
    hexValue?_digitChar (by omega)
  have hlow : hexValue? (Nat.digitChar (n % 16)) = some (n % 16) :=
    hexValue?_digitChar (by omega)
  have hsum : ((0 * 16 + 0) * 16 + n / 16) * 16 + n % 16 = n := by omega
  simp only [codeUnit?, hzero, hhigh, hlow, Option.bind_eq_bind, Option.bind_some, hsum]
  rfl

theorem escape?_digitChar {c : Char} (h : c.toNat < 0x20) (rest : List Char) :
    escape? ('u' :: '0' :: '0' :: Nat.digitChar (c.toNat / 16) ::
      Nat.digitChar (c.toNat % 16) :: rest) = some (c, rest) := by
  rw [escape?, codeUnit?_digitChar h]
  simp only
  rw [if_pos (.inl (by omega)), Char.ofNat_toNat]

theorem char?_cons {c : Char} (hslash : c ≠ '\\') (s : List Char) :
    char? (c :: s) = if c = '"' ∨ c.toNat < 0x20 then none else some (c, s) := by
  rw [char?]
  simp_all

theorem char?_jsonChar (c : Char) (rest : List Char) :
    char? (jsonChar c ++ rest) = some (c, rest) := by
  unfold jsonChar
  split
  case h_8 hquote hslash _ _ _ _ _ =>
    split
    next hcontrol => exact escape?_digitChar hcontrol rest
    next hplain =>
      rw [List.singleton_append, char?_cons hslash]
      exact if_neg (not_or.2 ⟨hquote, hplain⟩)
  all_goals rfl

/-- No quote starts a character, so it ends the text. -/
theorem exists_jsonChar (c : Char) : ∃ d t, jsonChar c = d :: t ∧ d ≠ '"' := by
  unfold jsonChar
  split
  case h_8 hquote _ _ _ _ _ _ =>
    split
    · exact ⟨_, _, rfl, by decide⟩
    · exact ⟨_, _, rfl, hquote⟩
  all_goals exact ⟨_, _, rfl, by decide⟩

theorem text?_jsonChar (c : Char) (s : List Char) :
    text? (jsonChar c ++ s) = (text? s).map fun r => (c :: r.1, r.2) := by
  have hchar := char?_jsonChar c s
  obtain ⟨d, t, h, hd⟩ := exists_jsonChar c
  rw [h, List.cons_append] at hchar ⊢
  rw [text?, hchar]
  · simp only
    rw [if_pos (by simp only [List.length_cons, List.length_append]; omega)]
  · rintro rest heq
    exact hd (List.cons.inj heq).1

/-- The quote after a text is the first one that no character takes. -/
theorem text?_flatMap_jsonChar (s rest : List Char) :
    text? (s.flatMap jsonChar ++ '"' :: rest) = some (s, rest) := by
  induction s with
  | nil => rw [List.flatMap_nil, List.nil_append, text?]
  | cons c s ih =>
    rw [List.flatMap_cons, List.append_assoc, text?_jsonChar, ih]
    rfl

theorem skip_cons {c : Char} (h : isSpace c = false) (s : List Char) : skip (c :: s) = c :: s := by
  rw [skip, List.dropWhile_cons_of_neg (by simp [h])]

theorem jsonText_append (t : String) (s : List Char) :
    jsonText t ++ s = '"' :: (t.toList.flatMap jsonChar ++ '"' :: s) := by
  simp [jsonText]

theorem members?_last (t : String) (rest : List Char) :
    members? (jsonText t ++ ']' :: rest) = some ([t], rest) := by
  rw [jsonText_append, members?, skip_cons (by decide)]
  simp only [text?_flatMap_jsonChar]
  rw [skip_cons (by decide)]
  simp

theorem members?_cons (t : String) (s : List Char) :
    members? (jsonText t ++ ',' :: s) = (members? s).map fun r => (t :: r.1, r.2) := by
  rw [jsonText_append, members?, skip_cons (by decide)]
  simp only [text?_flatMap_jsonChar]
  rw [skip_cons (by decide)]
  simp only [String.ofList_toList]
  rw [if_pos (by simp only [List.length_cons, List.length_append]; omega)]

theorem members?_intersperse {texts : List String} (hne : texts ≠ []) (rest : List Char) :
    members? (((texts.map jsonText).intersperse [',']).flatten ++ ']' :: rest) =
      some (texts, rest) := by
  induction texts with
  | nil => exact absurd rfl hne
  | cons t texts ih =>
    cases texts with
    | nil =>
      rw [List.map_singleton, List.intersperse_singleton, List.flatten_singleton]
      exact members?_last t rest
    | cons u texts =>
      have ih := ih (List.cons_ne_nil _ _)
      simp only [List.map_cons, List.intersperse_cons_cons, List.flatten_cons, List.append_assoc,
        List.singleton_append] at ih ⊢
      rw [List.cons_append, members?_cons, ih]
      rfl

theorem array?_jsonArray (texts : List String) : array? (jsonArray texts) = some texts := by
  unfold jsonArray array?
  rw [List.cons_append, skip_cons (by decide)]
  cases texts with
  | nil => rfl
  | cons t texts =>
    have h := members?_intersperse (List.cons_ne_nil t texts) []
    -- the first member starts with its quote, so the array is not an empty one
    obtain ⟨s, hs⟩ : ∃ s, (((t :: texts).map jsonText).intersperse [',']).flatten ++ [']'] =
        '"' :: s := by
      cases texts <;> simp [jsonText]
    have hskip : skip ('"' :: s) = '"' :: s := skip_cons (by decide) s
    rw [hs] at h ⊢
    simp only [hskip]
    split
    next heq => cases heq
    next =>
      rw [h]
      rfl

end Json
end SandboxImage
