import SandboxImage.Proofs.Files.Ancestors
import SandboxImage.Template.Location

/-!
# The nearest template file

The search goes through what stands above a path from the longest to the shortest, and asks in each
directory for the one name and then for the other. What it finds is told by which of these paths
lead somewhere, links followed, and by nothing else (`Template.nearest?_ofTree`).
-/

namespace SandboxImage

namespace Files

/-- Something is where the path leads, links followed. -/
def Tree.Leads (t : Tree) (here : Place) (p : Path) : Prop :=
  ∃ found, t.resolve here p = .ok found

theorem reaches_ofTree_iff {t : Tree} {here : Place} {p : Path} :
    (ofTree t here).reaches p = true ↔ t.Leads here p := by
  have hreaches : (ofTree t here).reaches p = (t.resolve here p).isOk := rfl
  rw [hreaches, Tree.Leads]
  cases t.resolve here p with
  | error fault => exact ⟨nofun, nofun⟩
  | ok found => exact ⟨fun _ => ⟨found, rfl⟩, fun _ => rfl⟩

end Files

namespace Template

open Files (Path Tree)
open Files.Path (IsAbove mem_ancestors_iff pairwise_ancestors)

/-- The preferred name of a template file. -/
def yml : Path := Text.encode "sandbox-template.yml"

/-- The other name of a template file. -/
def yaml : Path := Text.encode "sandbox-template.yaml"

/-- What a directory gives to the search, by what is there. -/
inductive IsFoundIn (there : Path → Prop) (a : Path) : Path → Prop
  | preferred : there (a.join yml) → IsFoundIn there a (a.join yml)
  | other : ¬ there (a.join yml) → there (a.join yaml) → IsFoundIn there a (a.join yaml)

/-- What is found in a directory that stands above a path, where nothing is in any nearer one. All
that stands above a path begins it, and so the nearer of two is the longer one. -/
structure IsNearest (there : Path → Prop) (start a q : Path) : Prop where
  isAbove : IsAbove start a
  isFoundIn : IsFoundIn there a q
  length_le : ∀ a', IsAbove start a' → there (a'.join yml) ∨ there (a'.join yaml) →
    a'.length ≤ a.length

variable {there there' : Path → Prop} {files files' : Files} {start a q : Path}

theorem exists_isFoundIn_iff :
    (∃ q, IsFoundIn there a q) ↔ there (a.join yml) ∨ there (a.join yaml) := by
  constructor
  · rintro ⟨_, hyml | ⟨-, hyaml⟩⟩
    · exact .inl hyml
    · exact .inr hyaml
  · by_cases hyml : there (a.join yml)
    · exact fun _ => ⟨_, .preferred hyml⟩
    · exact fun h => ⟨_, .other hyml (h.resolve_left hyml)⟩

/-! ## Searching -/

/-- The search in one directory. -/
def inDirectory? (files : Files) (a : Path) : Option Path :=
  (fileNames.map a.join).find? files.reaches

theorem inDirectory?_eq_some_iff :
    inDirectory? files a = some q ↔ IsFoundIn (files.reaches · = true) a q := by
  have hsearch : inDirectory? files a = [a.join yml, a.join yaml].find? files.reaches := rfl
  rw [hsearch]
  constructor
  · intro h
    by_cases hyml : files.reaches (a.join yml) = true
    · rw [List.find?_cons_of_pos hyml] at h
      cases h
      exact .preferred hyml
    · rw [List.find?_cons_of_neg hyml, List.find?_singleton] at h
      split at h
      next hyaml =>
        cases h
        exact .other hyml hyaml
      next => cases h
  · rintro (hyml | ⟨hyml, hyaml⟩)
    · exact List.find?_cons_of_pos hyml
    · rw [List.find?_cons_of_neg hyml]
      exact List.find?_cons_of_pos hyaml

theorem exists_inDirectory?_iff : (∃ q, inDirectory? files a = some q) ↔
    files.reaches (a.join yml) = true ∨ files.reaches (a.join yaml) = true :=
  (exists_congr fun _ => inDirectory?_eq_some_iff).trans exists_isFoundIn_iff

theorem nearest?_eq_findSome? (files : Files) (start : Path) :
    nearest? files start = start.ancestors.findSome? (inDirectory? files) :=
  List.find?_flatMap ..

/-- In a list that goes down, the first that gives something is the greatest that does. -/
theorem findSome?_eq_some_iff_of_pairwise {f : α → Option β} {size : α → Nat} {l : List α} {b : β}
    (h : l.Pairwise fun a a' => size a' < size a) :
    l.findSome? f = some b ↔
      ∃ a ∈ l, f a = some b ∧ ∀ a' ∈ l, (∃ b', f a' = some b') → size a' ≤ size a := by
  induction l with
  | nil => exact ⟨nofun, nofun⟩
  | cons a l ih =>
    obtain ⟨hlt, hl⟩ := List.pairwise_cons.1 h
    rw [List.findSome?_cons]
    cases ha : f a with
    | some c =>
      constructor
      · rintro ⟨⟩
        refine ⟨a, List.mem_cons_self, ha, List.forall_mem_cons.2 ⟨fun _ => Nat.le_refl _, ?_⟩⟩
        exact fun a' ha' _ => (hlt a' ha').le
      · rintro ⟨a', ha', hb, hmax⟩
        obtain rfl | ha' := List.mem_cons.1 ha'
        · exact ha.symm.trans hb
        · exact absurd (hmax a List.mem_cons_self ⟨c, ha⟩) (Nat.not_le.2 (hlt a' ha'))
    | none =>
      simp [ih hl, ha]

theorem nearest?_eq_some_iff :
    nearest? files start = some q ↔ ∃ a, IsNearest (files.reaches · = true) start a q := by
  rw [nearest?_eq_findSome?, findSome?_eq_some_iff_of_pairwise (pairwise_ancestors start)]
  simp only [mem_ancestors_iff, inDirectory?_eq_some_iff, exists_isFoundIn_iff]
  constructor
  · rintro ⟨a, habove, hfound, hmax⟩
    exact ⟨a, habove, hfound, hmax⟩
  · rintro ⟨a, habove, hfound, hmax⟩
    exact ⟨a, habove, hfound, hmax⟩

/-- Something is found if anything is there in a directory above the path. -/
theorem exists_nearest?_iff : (∃ q, nearest? files start = some q) ↔ ∃ a, IsAbove start a ∧
    (files.reaches (a.join yml) = true ∨ files.reaches (a.join yaml) = true) := by
  rw [← Option.isSome_iff_exists, nearest?_eq_findSome?, List.findSome?_isSome_iff]
  simp only [mem_ancestors_iff, Option.isSome_iff_exists, exists_inDirectory?_iff]

theorem IsFoundIn.congr (hyml : there (a.join yml) ↔ there' (a.join yml))
    (hyaml : there (a.join yaml) ↔ there' (a.join yaml)) (h : IsFoundIn there a q) :
    IsFoundIn there' a q := by
  cases h with
  | preferred h => exact .preferred (hyml.1 h)
  | other hnot h => exact .other (mt hyml.2 hnot) (hyaml.1 h)

theorem IsNearest.congr
    (hthere : ∀ a, IsAbove start a →
      (there (a.join yml) ↔ there' (a.join yml)) ∧ (there (a.join yaml) ↔ there' (a.join yaml)))
    (h : IsNearest there start a q) : IsNearest there' start a q := by
  refine ⟨h.isAbove, ?_, fun a' ha' hsome => ?_⟩
  · obtain ⟨hyml, hyaml⟩ := hthere a h.isAbove
    exact h.isFoundIn.congr hyml hyaml
  · obtain ⟨hyml, hyaml⟩ := hthere a' ha'
    exact h.length_le a' ha' (hsome.imp hyml.2 hyaml.2)

/-! ## Trees -/

/-- The search in a tree finds the file of the nearest directory that has one, and ends without one
only where no directory above the path has any. It asks for nothing but these files: trees that
agree on which of them are there give the same. -/
theorem nearest?_ofTree (t t' : Tree) (here here' : Files.Place) (start : Path) :
    (∀ q, nearest? (.ofTree t here) start = some q ↔ ∃ a, IsNearest (t.Leads here) start a q) ∧
      ((∃ q, nearest? (.ofTree t here) start = some q) ↔
        ∃ a, IsAbove start a ∧ (t.Leads here (a.join yml) ∨ t.Leads here (a.join yaml))) ∧
      ((∀ a, IsAbove start a →
          (t.Leads here (a.join yml) ↔ t'.Leads here' (a.join yml)) ∧
          (t.Leads here (a.join yaml) ↔ t'.Leads here' (a.join yaml))) →
        nearest? (.ofTree t here) start = nearest? (.ofTree t' here') start) := by
  have hnearest (t : Tree) (here : Files.Place) (q : Path) :
      nearest? (.ofTree t here) start = some q ↔ ∃ a, IsNearest (t.Leads here) start a q := by
    simp only [nearest?_eq_some_iff, Files.reaches_ofTree_iff]
  refine ⟨hnearest t here, ?_, fun hthere => ?_⟩
  · simp only [exists_nearest?_iff, Files.reaches_ofTree_iff]
  · refine Option.ext fun q => ?_
    rw [hnearest, hnearest]
    constructor
    · rintro ⟨a, ha⟩
      exact ⟨a, ha.congr hthere⟩
    · rintro ⟨a, ha⟩
      exact ⟨a, ha.congr fun a ha => (hthere a ha).imp Iff.symm Iff.symm⟩

end Template
end SandboxImage
