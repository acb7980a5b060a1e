import Mathlib.Data.List.Forall2
import SandboxImage.Template.Document

/-!
# Layouts

How a value may be laid out as a node. A text is a scalar that means it, a number one that means it,
a list has its items in order. A part with keys of its own is a mapping of its fields in any order,
of which some may be left out (`HasFields`). A form is filled in from every such mapping
(`Form.read_of_hasFields`), because what one field fills in no other one touches: this is what
`Form.Fills` asks of each key, and the induction is on the entries that are left.
-/

namespace SandboxImage

namespace Yaml

/-- A plain scalar that is a text means just its text, and is no null. -/
theorem of_plainMeaning {text t : String} (h : plainMeaning? text = some (.text t)) :
    text = t ∧ text ≠ "~" ∧ text ≠ "null" := by
  unfold plainMeaning? at h
  grind

theorem of_taggedMeaning {name text t : String} (h : taggedMeaning? name text = some (.text t)) :
    text = t ∧ name ≠ "null" := by
  unfold taggedMeaning? at h
  grind [Option.map_eq_some_iff]

theorem text_of_meaning {s : Scalar} {t : String} (h : s.meaning? = some (.text t)) :
    s.text = t := by
  unfold Scalar.meaning? at h
  split at h
  · split at h
    · exact (of_taggedMeaning h).1
    · cases h
      rfl
  · split at h
    · exact (of_plainMeaning h).1
    · cases h
      rfl

end Yaml

namespace Template

open Yaml (Node Scalar)

variable {α β σ : Type}

@[simp]
theorem ok_bind (a : α) (f : α → Except Problem β) : (Except.ok a >>= f) = f a := rfl

/-- The node is a scalar that means this text. -/
def IsText (n : Node) (t : String) : Prop :=
  ∃ s, n.target = .scalar s ∧ s.meaning? = some (.text t)

/-- The node is a scalar that means this number. -/
def IsNumber (n : Node) (k : Nat) : Prop :=
  ∃ s, n.target = .scalar s ∧ s.meaning? = some (.integer k)

/-- The node is a list of these values in their order. -/
def IsList (lays : Node → α → Prop) (n : Node) (l : List α) : Prop :=
  ∃ items, n.target = .sequence items ∧ List.Forall₂ lays items l

/-- A value under a key of a mapping. -/
structure Field where
  key : String
  /-- The node is this value. -/
  lays : Node → Prop
  /-- The value is there if nothing is said about it. -/
  spare : Prop

/-- The node is a mapping of fields in some order, where only spare ones are left out. -/
inductive HasFields (fields : List Field) (n : Node) : Prop where
  | intro (laid left : List Field) (hentries : n.target = .mapping entries)
      (hlaid : List.Forall₂ (fun e x => IsText e.1 x.key ∧ x.lays e.2) entries laid)
      (hperm : (laid ++ left).Perm fields) (hleft : ∀ x ∈ left, x.spare)

/-! ## Texts, numbers and lists -/

section

variable {n : Node} {t : String}

theorem IsText.target (h : IsText n t) : ∃ s, n.target = .scalar s ∧ s.text = t := by
  obtain ⟨s, hs, hmeaning⟩ := h
  exact ⟨s, hs, Yaml.text_of_meaning hmeaning⟩

theorem textValue?_of_isText (h : IsText n t) : textValue? n = some t := by
  obtain ⟨s, hs, hmeaning⟩ := h
  simp [textValue?, hs, hmeaning]

theorem readText_of_isText (h : IsText n t) (place : Place) : readText place n = .ok t := by
  obtain ⟨s, hs, rfl⟩ := h.target
  simp [readText, hs]

/-- A text is never taken for a missing value. -/
theorem isGiven_of_isText (h : IsText n t) (place : Place) : isGiven place n = .ok true := by
  obtain ⟨s, hs, hmeaning⟩ := h
  unfold isGiven
  rw [hs]
  split
  next text heq =>
    cases heq
    obtain ⟨-, htilde, hnull⟩ := Yaml.of_plainMeaning hmeaning
    simp [htilde, hnull]
  next text heq =>
    cases heq
    have htagged : Yaml.taggedMeaning? "null" text = some (.text t) := hmeaning
    exact absurd rfl (Yaml.of_taggedMeaning htagged).2
  next => rfl

theorem readOptional_of_isText (h : IsText n t) (place : Place) :
    readOptional readText place n = .ok (some t) := by
  simp [readOptional, isGiven_of_isText h, readText_of_isText h]

theorem readUnsigned_of_isNumber {bits k : Nat} (h : IsNumber n k) (hk : k < Nat.pow 2 bits)
    (place : Place) : readUnsigned bits place n = .ok k := by
  obtain ⟨s, hs, hmeaning⟩ := h
  have hrange : 0 ≤ (k : Int) ∧ (k : Int) < Nat.pow 2 bits := ⟨Int.natCast_nonneg k, by omega⟩
  simp only [readUnsigned, hs, hmeaning]
  rw [if_pos hrange]
  rfl

end

theorem readItems_of_forall₂ {read : Place → Node → Except Problem α} {lays : Node → α → Prop}
    (hread : ∀ n a, lays n a → ∀ place, read place n = .ok a) {items : List Node} {l : List α}
    (h : List.Forall₂ lays items l) (place : Place) (index : Nat) :
    readItems read place index items = .ok l := by
  induction h generalizing index with
  | nil => rfl
  | cons hitem _ ih =>
    simp only [readItems, hread _ _ hitem, ih]
    rfl

theorem readList_of_isList {read : Place → Node → Except Problem α} {lays : Node → α → Prop}
    (hread : ∀ n a, lays n a → ∀ place, read place n = .ok a) {n : Node} {l : List α}
    (h : IsList lays n l) (place : Place) : readList read place n = .ok l := by
  obtain ⟨items, hitems, hlays⟩ := h
  simp only [readList, hitems]
  exact readItems_of_forall₂ hread hlays place 0

/-! ## Mappings of fields -/

namespace Form

/-- What a form fills in for each field: `agrees key` says that the draft holds the value of the
field with that key. A field that is filled in agrees from then on, whatever else is filled in. -/
structure Fills (f : Form σ) (fields : List Field) (agrees : String → σ → Prop) : Prop where
  known : ∀ x ∈ fields, x.key ∈ f.part.keys
  distinct : (fields.map Field.key).Nodup
  fill : ∀ x ∈ fields, ∀ place n draft, x.lays n → ∃ draft',
    f.fill x.key place n draft = .ok draft' ∧ agrees x.key draft' ∧
      ∀ y ∈ fields, agrees y.key draft → agrees y.key draft'
  spare : ∀ x ∈ fields, x.spare → agrees x.key f.blank

variable {f : Form σ} {fields laid : List Field} {agrees : String → σ → Prop}

theorem fillEntries_of_laid (hf : f.Fills fields agrees) {entries : List (Node × Node)}
    (h : List.Forall₂ (fun e x => IsText e.1 x.key ∧ x.lays e.2) entries laid)
    (hsubset : laid ⊆ fields) (hdistinct : (laid.map Field.key).Nodup) (place : Place)
    (taken : List String) (htaken : ∀ x ∈ laid, x.key ∉ taken) (draft : σ) :
    ∃ draft', f.fillEntries place taken entries draft = .ok draft' ∧
      (∀ x ∈ fields, agrees x.key draft → agrees x.key draft') ∧
      ∀ x ∈ laid, agrees x.key draft' := by
  induction h generalizing taken draft with
  | nil => exact ⟨draft, rfl, fun _ _ h => h, fun _ hx => nomatch hx⟩
  | @cons e x rest laid he _ ih =>
    obtain ⟨key, value⟩ := e
    obtain ⟨hkey, hvalue⟩ := he
    obtain ⟨s, hs, htext⟩ := hkey.target
    obtain ⟨hx, hsubset⟩ := List.cons_subset.1 hsubset
    obtain ⟨hhead, hdistinct⟩ := List.nodup_cons.1 hdistinct
    obtain ⟨filled, hfilled, hagrees, hkeeps⟩ :=
      hf.fill x hx (entryPlace place key x.key) value draft hvalue
    have hfresh : x.key ∉ taken := htaken x List.mem_cons_self
    have hrest : ∀ y ∈ laid, y.key ∉ x.key :: taken := by
      intro y hy hmem
      rcases List.mem_cons.1 hmem with heq | hmem
      · exact hhead (heq ▸ List.mem_map_of_mem hy)
      · exact htaken y (List.mem_cons_of_mem x hy) hmem
    obtain ⟨draft', hdraft', hkeeps', hlaid⟩ := ih hsubset hdistinct _ hrest filled
    refine ⟨draft', ?_, fun y hy h => hkeeps' y hy (hkeeps y hy h), ?_⟩
    · simp only [fillEntries, hs, htext, hf.known x hx, hfresh, hfilled, if_true, if_false]
      exact hdraft'
    · exact List.forall_mem_cons.2 ⟨hkeeps' x hx hagrees, hlaid⟩

/-- Every layout of the fields fills in the form so that all of them agree. -/
theorem read_of_hasFields (hf : f.Fills fields agrees) {n : Node} (h : HasFields fields n)
    (place : Place) :
    ∃ draft, f.read place n = .ok draft ∧ ∀ x ∈ fields, agrees x.key draft := by
  obtain ⟨laid, left, hentries, hlaid, hperm, hleft⟩ := h
  have hdistinct := (hperm.map Field.key).nodup_iff.2 hf.distinct
  rw [List.map_append] at hdistinct
  have hsubset : laid ⊆ fields := fun _ hx => hperm.subset (List.mem_append_left _ hx)
  obtain ⟨draft, hdraft, hkeeps, hagrees⟩ := fillEntries_of_laid hf hlaid hsubset
    (List.nodup_append.1 hdistinct).1 place [] (fun _ _ hmem => nomatch hmem) f.blank
  refine ⟨draft, by simp only [read, hentries, hdraft], fun x hx => ?_⟩
  rcases List.mem_append.1 (hperm.symm.subset hx) with hx' | hx'
  · exact hagrees x hx'
  · exact hkeeps x hx (hf.spare x hx (hleft x hx'))

end Form
end Template
end SandboxImage
