import SandboxImage.Proofs.Validation.Accepted

/-!
# The rules of words and variables

What is asked of a word and of an entry of an environment, said without the functions that look for
faults: a name is a match of `[A-Za-z_][A-Za-z0-9_]*`, a value holds neither line feed nor NUL. The
fault that is found is the first one, by entries, and in an entry the name comes before the value
(`findSome?_entryFault_eq_some_iff`).
-/

namespace SandboxImage

/-! ## Words -/

/-- A text that is there and holds no white space. -/
def IsWord (word : String) : Prop := word ≠ "" ∧ ∀ c ∈ word.toList, Text.isBlank c = false

/-- The rule that a text breaks which is no word. -/
inductive BreaksWord (word : String) : Reason → Prop
  | empty : word = "" → BreaksWord word .empty
  | blank : c ∈ word.toList → Text.isBlank c = true → BreaksWord word (.holdsBlank word)

theorem wordFault?_eq_some_iff {word : String} {reason : Reason} :
    wordFault? word = some reason ↔ BreaksWord word reason := by
  unfold wordFault?
  constructor
  · intro h
    split at h
    next hempty =>
      cases h
      exact .empty (String.isEmpty_iff.1 hempty)
    next =>
      split at h
      next hany =>
        cases h
        obtain ⟨c, hc, hblank⟩ := List.any_eq_true.1 hany
        exact .blank hc hblank
      next => cases h
  · rintro (rfl | ⟨hc, hblank⟩)
    · rfl
    · have hany : word.toList.any Text.isBlank = true := List.any_eq_true.2 ⟨_, hc, hblank⟩
      rw [if_pos hany, if_neg]
      intro hempty
      rw [String.isEmpty_iff.1 hempty] at hc
      cases hc

theorem wordFault?_eq_none_iff {word : String} : wordFault? word = none ↔ IsWord word := by
  simp only [Option.eq_none_iff_forall_ne_some, ne_eq, wordFault?_eq_some_iff]
  constructor
  · intro h
    refine ⟨fun hempty => h _ (.empty hempty), fun c hc => ?_⟩
    exact Bool.eq_false_iff.2 fun hblank => h _ (.blank hc hblank)
  · rintro ⟨hne, hblank⟩ reason (hempty | ⟨hc, hc'⟩)
    · exact hne hempty
    · exact absurd hc' (Bool.eq_false_iff.1 (hblank _ hc))

/-! ## Variables -/

/-- A letter of ASCII. -/
def IsLetter (c : Char) : Prop := ('A' ≤ c ∧ c ≤ 'Z') ∨ ('a' ≤ c ∧ c ≤ 'z')

/-- A digit of ASCII. -/
def IsDigit (c : Char) : Prop := '0' ≤ c ∧ c ≤ '9'

/-- The text is a name of a variable. -/
inductive IsName (name : String) : Prop
  | intro : name.toList = c :: rest → c = '_' ∨ IsLetter c →
    (∀ d ∈ rest, d = '_' ∨ IsLetter d ∨ IsDigit d) → IsName name

/-- The text is a value of a variable. -/
def IsValue (value : String) : Prop := '\n' ∉ value.toList ∧ '\x00' ∉ value.toList

/-- The entry is a variable with its value. -/
structure IsEntry (e : String × String) : Prop where
  name : IsName e.1
  value : IsValue e.2

/-- The first rule that entries break: the entries before are all right. -/
inductive BreaksEntry (entries : List (String × String)) : Reason → Prop
  | name : entries = before ++ e :: after → (∀ d ∈ before, IsEntry d) → ¬ IsName e.1 →
    BreaksEntry entries (.badName e.1)
  | value : entries = before ++ e :: after → (∀ d ∈ before, IsEntry d) → IsName e.1 →
    ¬ IsValue e.2 → BreaksEntry entries (.badValue e.1)

theorem isAlpha_iff {c : Char} : c.isAlpha = true ↔ IsLetter c := by
  have hlower : c.isLower = true ↔ 'a' ≤ c ∧ c ≤ 'z' :=
    (Bool.and_eq_true ..).to_iff.trans (and_congr decide_eq_true_iff decide_eq_true_iff)
  exact (Bool.or_eq_true ..).to_iff.trans (or_congr decide_eq_true_iff hlower)

theorem isDigit_iff {c : Char} : c.isDigit = true ↔ IsDigit c :=
  (Bool.and_eq_true ..).to_iff.trans (and_congr decide_eq_true_iff decide_eq_true_iff)

theorem startsName_iff {c : Char} : startsName c = true ↔ c = '_' ∨ IsLetter c := by
  rw [startsName, Bool.or_eq_true, beq_iff_eq, isAlpha_iff]

theorem continuesName_iff {c : Char} :
    continuesName c = true ↔ c = '_' ∨ IsLetter c ∨ IsDigit c := by
  have halphanum : c.isAlphanum = (c.isAlpha || c.isDigit) := rfl
  rw [continuesName, halphanum, Bool.or_eq_true, Bool.or_eq_true, beq_iff_eq, isAlpha_iff,
    isDigit_iff]

theorem isVariableName_iff {name : String} : isVariableName name = true ↔ IsName name := by
  unfold isVariableName
  constructor
  · intro h
    split at h
    next c rest hname =>
      simp only [Bool.and_eq_true, List.all_eq_true] at h
      exact .intro hname (startsName_iff.1 h.1) fun d hd => continuesName_iff.1 (h.2 d hd)
    next => cases h
  · rintro ⟨hname, hfirst, hrest⟩
    rw [hname]
    simp only [Bool.and_eq_true, List.all_eq_true]
    exact ⟨startsName_iff.2 hfirst, fun d hd => continuesName_iff.2 (hrest d hd)⟩

theorem isPlainValue_iff {value : String} : isPlainValue value = true ↔ IsValue value := by
  simp only [isPlainValue, IsValue, List.all_eq_true, Bool.and_eq_true, bne_iff_ne]
  constructor
  · exact fun h => ⟨fun hmem => (h _ hmem).1 rfl, fun hmem => (h _ hmem).2 rfl⟩
  · exact fun h c hc => ⟨ne_of_mem_of_not_mem hc h.1, ne_of_mem_of_not_mem hc h.2⟩

theorem entryFault?_eq_none_iff {e : String × String} : entryFault? e = none ↔ IsEntry e := by
  constructor
  · intro h
    exact ⟨isVariableName_iff.1 (isVariableName_of_entryFault h),
      isPlainValue_iff.1 (isPlainValue_of_entryFault h)⟩
  · intro h
    simp [entryFault?, isVariableName_iff.2 h.name, isPlainValue_iff.2 h.value]

theorem entryFault?_eq_some_iff {e : String × String} {reason : Reason} :
    entryFault? e = some reason ↔ (¬ IsName e.1 ∧ reason = .badName e.1) ∨
      (IsName e.1 ∧ ¬ IsValue e.2 ∧ reason = .badValue e.1) := by
  rw [← isVariableName_iff, ← isPlainValue_iff, entryFault?]
  cases isVariableName e.1 <;> cases isPlainValue e.2 <;> simp [eq_comm]

theorem findSome?_entryFault_eq_none_iff {entries : List (String × String)} :
    entries.findSome? entryFault? = none ↔ ∀ e ∈ entries, IsEntry e := by
  simp only [List.findSome?_eq_none_iff, entryFault?_eq_none_iff]

theorem findSome?_entryFault_eq_some_iff {entries : List (String × String)} {reason : Reason} :
    entries.findSome? entryFault? = some reason ↔ BreaksEntry entries reason := by
  simp only [List.findSome?_eq_some_iff, entryFault?_eq_some_iff, entryFault?_eq_none_iff]
  constructor
  · rintro ⟨before, e, after, hentries, ⟨hname, rfl⟩ | ⟨hname, hvalue, rfl⟩, hbefore⟩
    · exact .name hentries hbefore hname
    · exact .value hentries hbefore hname hvalue
  · rintro (⟨hentries, hbefore, hname⟩ | ⟨hentries, hbefore, hname, hvalue⟩)
    · exact ⟨_, _, _, hentries, .inl ⟨hname, rfl⟩, hbefore⟩
    · exact ⟨_, _, _, hentries, .inr ⟨hname, hvalue, rfl⟩, hbefore⟩

end SandboxImage
