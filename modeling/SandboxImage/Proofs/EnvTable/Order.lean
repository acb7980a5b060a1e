import SandboxImage.EnvTable

/-!
# The order of settings

Settings of different names make the same table in whatever order they are given
(`EnvTable.ofList_of_perm`): placing a new name adds one entry and loses none
(`EnvTable.perm_place`), and there is only one ascending order of the entries.
-/

namespace SandboxImage.EnvTable

theorem perm_place {name value : String} {l : List (String × String)}
    (h : ∀ e ∈ l, e.1 ≠ name) : (place name value l).Perm ((name, value) :: l) := by
  induction l with
  | nil => exact .refl _
  | cons e rest ih =>
    have hrest := ih fun a ha => h a (List.mem_cons_of_mem e ha)
    unfold place
    split
    · exact .refl _
    · split
      · exact (hrest.cons e).trans (.swap ..)
      next hge hle =>
        have hname : e.1 = name := String.le_antisymm (String.not_lt.1 hge) (String.not_lt.1 hle)
        exact absurd hname (h e List.mem_cons_self)

/-- Settings of new names are added to the entries of a table. -/
theorem perm_foldl_insert {settings : List (String × String)} {t : EnvTable}
    (hdistinct : settings.Pairwise fun a b => a.1 ≠ b.1)
    (hnew : ∀ s ∈ settings, ∀ e ∈ t.entries, e.1 ≠ s.1) :
    (settings.foldl (fun t s => t.insert s.1 s.2) t).entries.Perm (settings ++ t.entries) := by
  induction settings generalizing t with
  | nil => exact .refl _
  | cons s rest ih =>
    obtain ⟨hs, hrest⟩ := List.pairwise_cons.1 hdistinct
    have hplace : (t.insert s.1 s.2).entries.Perm (s :: t.entries) :=
      perm_place (hnew s List.mem_cons_self)
    refine (ih hrest fun r hr e he => ?_).trans ?_
    · rcases List.mem_cons.1 (hplace.mem_iff.1 he) with rfl | he
      · exact hs r hr
      · exact hnew r (List.mem_cons_of_mem s hr) e he
    · exact (hplace.append_left rest).trans List.perm_middle

theorem ext_of_perm {t u : EnvTable} (h : t.entries.Perm u.entries) : t = u := by
  have heq : t.entries = u.entries :=
    h.eq_of_pairwise (fun _ _ _ _ hab hba => absurd hba (String.lt_asymm hab)) t.ascending
      u.ascending
  cases t
  cases u
  cases heq
  rfl

theorem ofList_of_perm {settings : List (String × String)} {t : EnvTable}
    (h : settings.Perm t.entries) : ofList settings = t := by
  have hdistinct : settings.Pairwise fun a b => a.1 ≠ b.1 :=
    h.symm.pairwise (t.ascending.imp fun hlt => String.ne_of_lt hlt) fun hne => hne.symm
  have hperm := perm_foldl_insert (t := empty) hdistinct fun _ _ _ he => nomatch he
  refine ext_of_perm (hperm.trans ?_)
  rw [show empty.entries = [] from rfl, List.append_nil]
  exact h

end SandboxImage.EnvTable
