import Mathlib.Data.List.TakeWhile
import SandboxImage.Files.Path
import SandboxImage.Proofs.Text.Pieces

/-!
# Ancestors of a path

A path is its front and the names behind it (`Path.names`). Above it stand the texts of the front
with fewer of these names: for each number of names the shortest beginning of the path that has them
(`Path.IsStem`), and above a single point nothing at all. That is what taking parents goes through,
from the longest to the shortest (`Path.mem_ancestors_iff`, `Path.pairwise_ancestors`).

The parent is found from the end of the text. Where components that are passed over have been cut
off there, the text is the shortest with its names (`Path.IsSolid.eq_of_names`), and a text has no
more names than one that it begins (`Path.length_namesIn_le`).
-/

namespace SandboxImage.Files.Path

/-! ## Names -/

/-- The components in a text that are not passed over. -/
def namesIn (s : Bytes) : List Bytes := (Text.pieces slash s).filter (!isIdle ·)

/-- A path behind its front. -/
def body (p : Path) : Bytes := p.drop (front p).length

/-- The names in a path behind its front. -/
def names (p : Path) : List Bytes := namesIn (body p)

theorem namesIn_append_slash (s t : Bytes) :
    namesIn (s ++ slash :: t) = namesIn s ++ namesIn t := by
  rw [namesIn, Text.pieces_append_sep, List.filter_append]
  rfl

theorem namesIn_of_idle {n : Bytes} (h : slash ∉ n) (hn : isIdle n = true) : namesIn n = [] := by
  rw [namesIn, Text.pieces_of_not_mem h]
  simp [hn]

theorem namesIn_of_not_idle {n : Bytes} (h : slash ∉ n) (hn : isIdle n = false) :
    namesIn n = [n] := by
  rw [namesIn, Text.pieces_of_not_mem h]
  simp [hn]

theorem isIdle_iff {n : Bytes} : isIdle n = true ↔ n = [] ∨ n = [point] := by
  simp [isIdle]

theorem isIdle_of_isPrefix {n m : Bytes} (h : n <+: m) (hm : isIdle m = true) :
    isIdle n = true := by
  rw [isIdle_iff] at hm ⊢
  obtain rfl | rfl := hm
  · exact .inl (List.prefix_nil.1 h)
  · cases n with
    | nil => exact .inl rfl
    | cons b n =>
      obtain ⟨rfl, hn⟩ := List.cons_prefix_cons.1 h
      exact .inr (by rw [List.prefix_nil.1 hn])

theorem length_namesIn_le_of_not_mem {n m : Bytes} (hm : slash ∉ m) (h : n <+: m) :
    (namesIn n).length ≤ (namesIn m).length := by
  have hn : slash ∉ n := fun hmem => hm (h.subset hmem)
  cases hidle : isIdle m with
  | true =>
    rw [namesIn_of_idle hn (isIdle_of_isPrefix h hidle)]
    exact Nat.zero_le _
  | false =>
    rw [namesIn_of_not_idle hm hidle, namesIn, Text.pieces_of_not_mem hn]
    exact List.length_filter_le ..

/-- A text has no more names than one that it begins: a component that is passed over can become a
name when it goes on, and never the other way round. -/
theorem length_namesIn_le {s t : Bytes} (h : s <+: t) :
    (namesIn s).length ≤ (namesIn t).length := by
  induction t using Text.pieces_induction slash generalizing s with
  | nil => exact length_namesIn_le_of_not_mem List.not_mem_nil h
  | last t ht => exact length_namesIn_le_of_not_mem ht h
  | ended piece rest hpiece ih =>
    rw [namesIn_append_slash, List.length_append]
    obtain hs | ⟨t, rfl, ht⟩ := Text.prefix_append_cons_cases h
    · exact Nat.le_add_right_of_le (length_namesIn_le_of_not_mem hpiece hs)
    · rw [namesIn_append_slash, List.length_append]
      exact Nat.add_le_add_left (ih ht) _

/-! ## Ends -/

/-- Nothing that is passed over stands at the end of the text: it is empty, or ends in a name. -/
inductive IsSolid : Bytes → Prop
  | nil : IsSolid []
  | name : slash ∉ n → isIdle n = false → IsSolid n
  | names : slash ∉ n → isIdle n = false → IsSolid (s ++ slash :: n)

/-- A name is lost if it is cut. -/
theorem namesIn_ne_of_isPrefix {n m : Bytes} (h : slash ∉ n) (hm : m <+: n) (hne : m ≠ n) :
    namesIn m ≠ [n] := by
  have hslash : slash ∉ m := fun hmem => h (hm.subset hmem)
  intro heq
  cases hidle : isIdle m with
  | true => rw [namesIn_of_idle hslash hidle] at heq; cases heq
  | false =>
    rw [namesIn_of_not_idle hslash hidle] at heq
    exact hne (List.singleton_inj.1 heq)

/-- A text that ends in a name is the shortest of its beginnings that have its names. -/
theorem IsSolid.eq_of_names {s t : Bytes} (ht : IsSolid t) (h : s <+: t)
    (hnames : namesIn s = namesIn t) : s = t := by
  by_contra hne
  cases ht with
  | nil => exact hne (List.prefix_nil.1 h)
  | name hslash hidle =>
    rw [namesIn_of_not_idle hslash hidle] at hnames
    exact namesIn_ne_of_isPrefix hslash h hne hnames
  | @names n a hslash hidle =>
    rw [namesIn_append_slash, namesIn_of_not_idle hslash hidle] at hnames
    obtain hs | ⟨m, rfl, hm⟩ := Text.prefix_append_cons_cases h
    · have hlength := length_namesIn_le hs
      rw [hnames, List.length_append, List.length_singleton] at hlength
      omega
    · rw [namesIn_append_slash] at hnames
      refine namesIn_ne_of_isPrefix hslash hm ?_ (List.append_cancel_left hnames)
      rintro rfl
      exact hne rfl

/-! ## Reversed texts -/

/-- What stands before the last component of a reversed path, reversed. -/
def outer (r : Bytes) : Bytes := (r.dropWhile (· != slash)).drop 1

theorem slash_not_mem_lastName (r : Bytes) : slash ∉ lastName r := by
  intro h
  have := List.mem_takeWhile_imp h
  simp at this

theorem lastName_cases (r : Bytes) :
    lastName r = r ∧ outer r = [] ∨ r = lastName r ++ slash :: outer r := by
  induction r with
  | nil => exact .inl ⟨rfl, rfl⟩
  | cons b r ih =>
    by_cases hb : b = slash
    · right
      simp [lastName, outer, hb]
    · have hne : (b != slash) = true := bne_iff_ne.2 hb
      have hname : lastName (b :: r) = b :: lastName r := List.takeWhile_cons_of_pos hne
      have houter : outer (b :: r) = outer r :=
        congrArg (List.drop 1) (List.dropWhile_cons_of_pos hne)
      rw [hname, houter, List.cons_append, List.cons_inj_right, List.cons_inj_right]
      exact ih

theorem outer_suffix (r : Bytes) : outer r <:+ r :=
  (List.drop_suffix 1 _).trans (List.dropWhile_suffix _)

theorem drop_lastName (b : UInt8) (rest : Bytes) :
    rest.drop (lastName (b :: rest)).length = outer (b :: rest) := by
  obtain ⟨hname, houter⟩ | hr := lastName_cases (b :: rest)
  · rw [hname, houter]
    exact List.drop_eq_nil_of_le (Nat.le_succ _)
  · generalize lastName (b :: rest) = name at hr ⊢
    generalize outer (b :: rest) = before at hr ⊢
    calc rest.drop name.length = (b :: rest).drop (name.length + 1) := rfl
      _ = (name ++ slash :: before).drop (name.length + 1) := by rw [hr]
      _ = before := by simp

theorem isIdle_reverse (n : Bytes) : isIdle n.reverse = isIdle n := by
  rw [Bool.eq_iff_iff, isIdle_iff, isIdle_iff, List.reverse_eq_nil_iff, List.reverse_eq_iff]
  rfl

theorem namesIn_reverse (r : Bytes) :
    namesIn r.reverse = namesIn (outer r).reverse ++ namesIn (lastName r).reverse := by
  obtain ⟨hname, houter⟩ | hr := lastName_cases r
  · rw [hname, houter]
    rfl
  · conv_lhs => rw [hr]
    rw [List.reverse_append, List.reverse_cons, List.append_assoc, List.singleton_append,
      namesIn_append_slash]

theorem slash_not_mem_reverse_lastName (r : Bytes) : slash ∉ (lastName r).reverse :=
  mt List.mem_reverse.1 (slash_not_mem_lastName r)

theorem isSolid_reverse {r : Bytes} (h : isIdle (lastName r) = false) : IsSolid r.reverse := by
  have hidle : isIdle (lastName r).reverse = false := (isIdle_reverse _).trans h
  obtain ⟨hname, -⟩ | hr := lastName_cases r
  · rw [hname] at hidle
    exact .name (hname ▸ slash_not_mem_reverse_lastName r) hidle
  · rw [hr, List.reverse_append, List.reverse_cons, List.append_assoc, List.singleton_append]
    exact .names (slash_not_mem_reverse_lastName r) hidle

/-! ## What is cut off at the end -/

theorem trimBack_suffix (r : Bytes) : trimBack r <:+ r := by
  fun_induction trimBack r with
  | case1 => exact List.suffix_rfl
  | case2 b rest _ ih =>
    rw [drop_lastName] at ih ⊢
    exact ih.trans (outer_suffix _)
  | case3 => exact List.suffix_rfl

/-- What is left ends in a name. -/
theorem isIdle_of_trimBack {r rest : Bytes} {b : UInt8} (h : trimBack r = b :: rest) :
    isIdle (lastName (b :: rest)) = false := by
  fun_induction trimBack r with
  | case1 => cases h
  | case2 _ _ _ ih => exact ih h
  | case3 b' rest' hidle =>
    rw [← h]
    exact Bool.eq_false_iff.2 hidle

theorem isSolid_trimBack (r : Bytes) : IsSolid (trimBack r).reverse := by
  cases h : trimBack r with
  | nil => exact .nil
  | cons b rest => exact isSolid_reverse (isIdle_of_trimBack h)

theorem namesIn_trimBack (r : Bytes) : namesIn (trimBack r).reverse = namesIn r.reverse := by
  fun_induction trimBack r with
  | case1 => rfl
  | case2 b rest hidle ih =>
    rw [ih, drop_lastName, namesIn_reverse (b :: rest),
      namesIn_of_idle (slash_not_mem_reverse_lastName _) ((isIdle_reverse _).trans hidle),
      List.append_nil]
  | case3 => rfl

/-! ## Stems -/

/-- The text of the first names of a path: its shortest beginning that has them. -/
structure IsStem (p q : Path) : Prop where
  isPrefix : q <+: p
  front_eq : front q = front p
  length_le : ∀ q', q' <+: p → front q' = front p → names q' = names q → q.length ≤ q'.length

/-- What stands above a path, and the path itself. A beginning that ends inside a name of
the path has another name there, and is not above it. -/
inductive IsAbove (p : Path) : Path → Prop
  | self : IsAbove p p
  | stem : IsStem p q → names q <+: names p → names q ≠ names p → IsAbove p q
  | empty : front p = [point] → IsAbove p []

section

variable {p q q' : Path} {s : Bytes}

theorem front_append_body (p : Path) : front p ++ body p = p := by
  unfold body front
  split <;> rfl

theorem body_isPrefix (h : q' <+: q) (hfront : front q' = front q) : body q' <+: body q := by
  rw [← front_append_body q', ← front_append_body q, hfront] at h
  exact (List.prefix_append_right_inj _).1 h

theorem length_names_le (h : q' <+: q) (hfront : front q' = front q) :
    (names q').length ≤ (names q).length :=
  length_namesIn_le (body_isPrefix h hfront)

theorem not_isSolid_point : ¬ IsSolid [point] := by
  intro h
  generalize hs : [point] = s at h
  cases h with
  | nil => cases hs
  | name _ hidle => exact absurd (hs ▸ hidle) (by decide)
  | @names n a =>
    cases a with
    | nil => cases hs
    | cons b a => simp at hs

theorem front_of_isPrefix (hs : IsSolid s) (h : s <+: p) (hfront : front p = []) :
    front s = [] := by
  obtain ⟨rest, rfl⟩ := h
  unfold front
  split
  · cases hfront
  · exact absurd hs not_isSolid_point
  · cases hfront
  · rfl

theorem front_cases (p : Path) : front p = [] ∨ (∃ rest, p = slash :: rest) ∨ p = [point] ∨
    ∃ rest, p = point :: slash :: rest := by
  unfold front
  split
  · exact .inr (.inl ⟨_, rfl⟩)
  · exact .inr (.inr (.inl rfl))
  · exact .inr (.inr (.inr ⟨_, rfl⟩))
  · exact .inl rfl

/-- The front is that of the whole path, as long as a single point is not all that is left. -/
theorem front_append_of_isSolid (hs : IsSolid s) (h : s <+: body p) :
    front (front p ++ s) = front p := by
  obtain hfront | ⟨rest, rfl⟩ | rfl | ⟨rest, rfl⟩ := front_cases p
  · rw [body, hfront] at h
    rw [hfront]
    exact front_of_isPrefix hs h hfront
  · rfl
  · rw [List.prefix_nil.1 h]
    rfl
  · cases s with
    | nil => rfl
    | cons b s =>
      obtain ⟨rfl, -⟩ := List.cons_prefix_cons.1 h
      rfl

theorem body_append_of_isSolid (hs : IsSolid s) (h : s <+: body p) : body (front p ++ s) = s := by
  rw [body, front_append_of_isSolid hs h, List.drop_left]

theorem front_append_isPrefix (h : s <+: body p) : front p ++ s <+: p := by
  conv_rhs => rw [← front_append_body p]
  exact (List.prefix_append_right_inj _).2 h

/-- Where nothing that is passed over stands at the end, no shorter text has the names. -/
theorem isStem_of_isSolid (hs : IsSolid s) (h : s <+: body p) : IsStem p (front p ++ s) := by
  have hfront := front_append_of_isSolid hs h
  have hp := front_append_isPrefix h
  refine ⟨hp, hfront, fun q' hq' hfront' hnames => ?_⟩
  by_contra hlt
  have hbegin : q' <+: front p ++ s := List.prefix_of_prefix_length_le hq' hp (by omega)
  have hbody := body_isPrefix hbegin (hfront'.trans hfront.symm)
  rw [names, names, body_append_of_isSolid hs h] at hnames
  rw [body_append_of_isSolid hs h] at hbody
  rw [← front_append_body q', hs.eq_of_names hbody hnames, hfront'] at hlt
  exact hlt (Nat.le_refl _)

theorem IsStem.eq (h : IsStem p q) (h' : IsStem p q') (hnames : names q = names q') : q = q' := by
  have hle := h.length_le q' h'.isPrefix h'.front_eq hnames.symm
  have hle' := h'.length_le q h.isPrefix h.front_eq hnames
  exact (List.prefix_of_prefix_length_le h.isPrefix h'.isPrefix hle).eq_of_length_le hle'

end

/-! ## Parents -/

/-- The parent is what the path becomes when its last name is taken from it; where there is no name,
only a single point has a parent. -/
inductive IsParent (p : Path) : Option Path → Prop
  | none : names p = [] → front p ≠ [point] → IsParent p none
  | empty : names p = [] → front p = [point] → IsParent p (some [])
  | stem : IsStem p q → names p = names q ++ [n] → IsParent p (some q)

theorem isParent_parent? (p : Path) : IsParent p (parent? p) := by
  have hnames : names p = namesIn (trimBack (body p).reverse).reverse := by
    rw [namesIn_trimBack, List.reverse_reverse]
    rfl
  unfold parent?
  split
  next hnil =>
    have hnone : names p = [] := by
      rw [hnames]
      exact congrArg (fun r => namesIn r.reverse) hnil
    split
    next hfront => exact .empty hnone hfront
    next hfront => exact .none hnone hfront
  next b r hr =>
    have htrim : trimBack (body p).reverse = b :: r := hr
    have hlast := isIdle_of_trimBack htrim
    change IsParent p (some (front p ++ (trimBack (outer (b :: r))).reverse))
    have hbegin : (trimBack (outer (b :: r))).reverse <+: body p := by
      rw [← List.reverse_reverse (body p), List.reverse_prefix]
      exact (trimBack_suffix _).trans ((outer_suffix _).trans (htrim ▸ trimBack_suffix _))
    have hsolid := isSolid_trimBack (outer (b :: r))
    apply IsParent.stem (isStem_of_isSolid hsolid hbegin)
    calc names p = namesIn (b :: r).reverse := by rw [hnames, htrim]
      _ = namesIn (outer (b :: r)).reverse ++ [(lastName (b :: r)).reverse] := by
        rw [namesIn_reverse, namesIn_of_not_idle (slash_not_mem_reverse_lastName _)
          ((isIdle_reverse _).trans hlast)]
      _ = names (front p ++ (trimBack (outer (b :: r))).reverse) ++ _ := by
        rw [names, body_append_of_isSolid hsolid hbegin, namesIn_trimBack]

/-! ## Taking parents -/

theorem IsStem.trans (hq : IsStem p q) (ha : IsStem q a) : IsStem p a := by
  have hap : a <+: p := ha.isPrefix.trans hq.isPrefix
  refine ⟨hap, ha.front_eq.trans hq.front_eq, fun q' hq' hfront hnames => ?_⟩
  by_contra hlt
  have hbegin : q' <+: a := List.prefix_of_prefix_length_le hq' hap (by omega)
  exact hlt (ha.length_le q' (hbegin.trans ha.isPrefix) (hfront.trans hq.front_eq.symm) hnames)

/-- A stem with fewer names than another is one of that. -/
theorem IsStem.of_names (hq : IsStem p q) (ha : IsStem p a) (hnames : names a <+: names q) :
    IsStem q a := by
  have hbegin : a <+: q := by
    obtain haq | hqa := List.prefix_or_prefix_of_prefix ha.isPrefix hq.isPrefix
    · exact haq
    · have hlength := length_names_le hqa (hq.front_eq.trans ha.front_eq.symm)
      obtain rfl := ha.eq hq (hnames.eq_of_length_le hlength)
      exact List.prefix_rfl
  refine ⟨hbegin, ha.front_eq.trans hq.front_eq.symm, fun q' hq' hfront => ?_⟩
  exact ha.length_le q' (hq'.trans hq.isPrefix) (hfront.trans hq.front_eq)

theorem isAbove_nil_iff : IsAbove [] a ↔ a = [] := by
  constructor
  · rintro (_ | ⟨hstem, -, -⟩ | hfront)
    · rfl
    · exact List.prefix_nil.1 hstem.isPrefix
    · rfl
  · rintro rfl
    exact .self

theorem isAbove_of_names_nil (hnames : names p = []) (h : IsAbove p a) :
    a = p ∨ front p = [point] ∧ a = [] := by
  cases h with
  | self => exact .inl rfl
  | stem _ hbegin hne =>
    rw [hnames] at hbegin hne
    exact absurd (List.prefix_nil.1 hbegin) hne
  | empty hfront => exact .inr ⟨hfront, rfl⟩

/-- With one name less, the path itself is all that is no longer above. -/
theorem IsStem.isAbove_iff (hq : IsStem p q) (hnames : names p = names q ++ [n]) :
    IsAbove p a ↔ a = p ∨ IsAbove q a := by
  have hle : names q <+: names p := hnames ▸ List.prefix_append _ _
  have hne {a : Path} (ha : names a <+: names q) : names a ≠ names p := by
    intro heq
    have hlength := ha.length_le
    rw [heq, hnames, List.length_append, List.length_singleton] at hlength
    omega
  constructor
  · rintro (_ | ⟨ha, haq, hlt⟩ | hfront)
    · exact .inl rfl
    · rw [hnames, List.prefix_concat_iff, ← hnames] at haq
      have haq := haq.resolve_left hlt
      right
      by_cases heq : names a = names q
      · rw [ha.eq hq heq]
        exact .self
      · exact .stem (hq.of_names ha haq) haq heq
    · exact .inr (.empty (hq.front_eq.trans hfront))
  · rintro (rfl | _ | ⟨ha, haq, -⟩ | hfront)
    · exact .self
    · exact .stem hq hle (hne List.prefix_rfl)
    · exact .stem (hq.trans ha) (haq.trans hle) (hne haq)
    · exact .empty (hq.front_eq.symm.trans hfront)

/-- Above a path with a parent stands the path and what stands above the parent. -/
theorem IsParent.isAbove_iff (h : IsParent p (some q)) : IsAbove p a ↔ a = p ∨ IsAbove q a := by
  cases h with
  | empty hnames hfront =>
    rw [isAbove_nil_iff]
    constructor
    · intro ha
      exact (isAbove_of_names_nil hnames ha).imp_right And.right
    · rintro (rfl | rfl)
      · exact .self
      · exact .empty hfront
  | stem hq hnames => exact hq.isAbove_iff hnames

theorem IsParent.isAbove_iff_eq (h : IsParent p Option.none) : IsAbove p a ↔ a = p := by
  cases h with
  | none hnames hfront =>
    constructor
    · intro ha
      exact (isAbove_of_names_nil hnames ha).resolve_right fun hpoint => hfront hpoint.1
    · rintro rfl
      exact .self

theorem IsAbove.length_le (h : IsAbove p a) : a.length ≤ p.length := by
  cases h with
  | self => exact Nat.le_refl _
  | stem ha _ _ => exact ha.isPrefix.length_le
  | empty _ => exact Nat.zero_le _

/-- A path and its parents are what stands above it. -/
theorem mem_ancestors_iff : a ∈ ancestors p ↔ IsAbove p a := by
  fun_induction ancestors p with
  | case1 p q hparent ih =>
    rw [List.mem_cons, ih, (hparent ▸ isParent_parent? p : IsParent p (some q)).isAbove_iff]
  | case2 p hparent =>
    rw [List.mem_singleton, (hparent ▸ isParent_parent? p : IsParent p Option.none).isAbove_iff_eq]

/-- Parents are taken from the longest to the shortest. -/
theorem pairwise_ancestors (p : Path) :
    (ancestors p).Pairwise fun a a' => a'.length < a.length := by
  fun_induction ancestors p with
  | case1 p q hparent ih =>
    rw [List.pairwise_cons]
    refine ⟨fun a ha => ?_, ih⟩
    exact Nat.lt_of_le_of_lt (mem_ancestors_iff.1 ha).length_le (length_parent?_lt hparent)
  | case2 p hparent => exact List.pairwise_singleton _ _

end SandboxImage.Files.Path
