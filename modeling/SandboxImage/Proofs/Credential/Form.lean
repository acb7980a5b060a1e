import Mathlib.Data.List.TakeWhile
import SandboxImage.Credential

/-!
# The form of credentials

A text is a credential if, without the blanks around it, a user and a password are joined by a
colon in it, and neither is empty. What podman reads is that text again (`Credential.parse_iff`).
-/

namespace SandboxImage.Credential

variable {c : Credential}

/-- A user, in which there is no colon, and a password. -/
structure IsFormed (c : Credential) : Prop where
  user_ne : c.user ≠ ""
  password_ne : c.password ≠ ""
  plain : ':' ∉ c.user.toList

theorem exposed_toList : c.exposed.toList = c.user.toList ++ ':' :: c.password.toList := by
  simp [exposed]

/-- The search for a colon stops at one. -/
theorem split_at_colon {t : List Char} (h : t.dropWhile (· != ':') ≠ []) :
    t = t.takeWhile (· != ':') ++ ':' :: (t.dropWhile (· != ':')).drop 1 := by
  have hsplit := List.takeWhile_append_dropWhile (p := (· != ':')) (l := t)
  have hhead := List.head?_dropWhile_not (· != ':') t
  cases hrest : t.dropWhile (· != ':') with
  | nil => exact absurd hrest h
  | cons colon rest =>
    rw [hrest] at hsplit hhead
    have hcolon : colon = ':' := by simpa using hhead
    rw [hcolon] at hsplit
    exact hsplit.symm

theorem colon_not_mem_takeWhile (t : List Char) : ':' ∉ t.takeWhile (· != ':') := by
  intro h
  have hne := List.mem_takeWhile_imp h
  exact absurd hne (by decide)

theorem parse_iff : parse text = .ok c ↔ c.IsFormed ∧ Text.trimmed text = c.exposed := by
  constructor
  · intro h
    unfold parse at h
    simp only at h
    split at h
    next => cases h
    next hne =>
      cases h
      simp only [Bool.or_eq_true, List.isEmpty_iff, not_or] at hne
      obtain ⟨huser, hpassword⟩ := hne
      have hrest : (Text.trim text.toList).dropWhile (· != ':') ≠ [] := by
        intro hnil
        rw [hnil] at hpassword
        exact hpassword rfl
      refine ⟨⟨by simpa using huser, by simpa using hpassword, ?_⟩, ?_⟩
      · rw [String.toList_ofList]
        exact colon_not_mem_takeWhile _
      · rw [← String.toList_inj, exposed_toList, Text.trimmed, String.toList_ofList,
          String.toList_ofList, String.toList_ofList]
        exact split_at_colon hrest
  · rintro ⟨h, ht⟩
    have htrim : Text.trim text.toList = c.user.toList ++ ':' :: c.password.toList := by
      rw [← exposed_toList, ← ht, Text.trimmed, String.toList_ofList]
    have hne : ∀ a ∈ c.user.toList, (a != ':') = true := by
      intro a ha
      exact bne_iff_ne.2 fun hcolon => h.plain (hcolon ▸ ha)
    unfold parse
    simp only [htrim, List.takeWhile_append_of_pos hne, List.dropWhile_append_of_pos hne]
    simp [h.user_ne, h.password_ne]

/-- A variable holds this credential: it is set, its bytes are a text, and that text is the user
and the password. -/
inductive HeldBy (c : Credential) : Option Bytes → Prop
  | text : Text.decode? bytes = some text → Text.trimmed text = c.exposed → c.IsFormed →
    HeldBy c (some bytes)

theorem ofVariable_iff {setting : Option Bytes} :
    ofVariable setting = .ok c ↔ c.HeldBy setting := by
  constructor
  · intro h
    rcases setting with - | bytes
    · cases h
    · cases htext : Text.decode? bytes with
      | none => simp [ofVariable, htext] at h
      | some text =>
        simp only [ofVariable, htext] at h
        obtain ⟨hformed, htrimmed⟩ := parse_iff.1 h
        exact .text htext htrimmed hformed
  · rintro ⟨htext, htrimmed, hformed⟩
    simp only [ofVariable, htext]
    exact parse_iff.2 ⟨hformed, htrimmed⟩

end SandboxImage.Credential
