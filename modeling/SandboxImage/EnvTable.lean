/-!
# Environment tables

Variables with their values, at most one value a name, in the order of the names' code points. The
order is part of the type, so equal contents mean equal tables.
-/

namespace SandboxImage

/-- Variables with their values, in ascending order of the names. -/
structure EnvTable where
  entries : List (String × String)
  ascending : entries.Pairwise fun a b => a.1 < b.1
  deriving DecidableEq

namespace EnvTable

/-- The table without variables. -/
def empty : EnvTable := ⟨[], .nil⟩

instance : Inhabited EnvTable := ⟨empty⟩

/-- Puts a variable at its place in an ascending list; a value that is there already gives way. -/
def place (name value : String) : List (String × String) → List (String × String)
  | [] => [(name, value)]
  | e :: rest =>
    if name < e.1 then (name, value) :: e :: rest
    else if e.1 < name then e :: place name value rest
    else (name, value) :: rest

theorem mem_place {name value : String} {l : List (String × String)} {e : String × String}
    (h : e ∈ place name value l) : e = (name, value) ∨ e ∈ l := by
  induction l with
  | nil => simpa [place] using h
  | cons a l ih =>
    unfold place at h
    split at h
    · simpa using h
    · split at h
      · rcases List.mem_cons.1 h with h | h
        · exact .inr (by simp [h])
        · rcases ih h with h | h <;> simp [h]
      · rcases List.mem_cons.1 h with h | h <;> simp [h]

theorem ascending_place (name value : String) {l : List (String × String)}
    (h : l.Pairwise fun a b => a.1 < b.1) :
    (place name value l).Pairwise fun a b => a.1 < b.1 := by
  induction l with
  | nil => simp [place]
  | cons a l ih =>
    obtain ⟨ha, hl⟩ := List.pairwise_cons.1 h
    unfold place
    split
    next hlt =>
      refine List.pairwise_cons.2 ⟨fun e he => ?_, h⟩
      rcases List.mem_cons.1 he with rfl | he
      · exact hlt
      · exact String.lt_trans hlt (ha e he)
    next hge =>
      split
      next hgt =>
        refine List.pairwise_cons.2 ⟨fun e he => ?_, ih hl⟩
        rcases mem_place he with rfl | he
        · exact hgt
        · exact ha e he
      next hle =>
        have heq : a.1 = name :=
          String.le_antisymm (String.not_lt.1 hge) (String.not_lt.1 hle)
        exact List.pairwise_cons.2 ⟨fun e he => heq ▸ ha e he, hl⟩

/-- The table with one variable set. -/
def insert (t : EnvTable) (name value : String) : EnvTable :=
  ⟨place name value t.entries, ascending_place name value t.ascending⟩

/-- The table of a list of settings, where a later setting of a name wins. -/
def ofList (settings : List (String × String)) : EnvTable :=
  settings.foldl (fun t s => t.insert s.1 s.2) empty

end EnvTable
end SandboxImage
