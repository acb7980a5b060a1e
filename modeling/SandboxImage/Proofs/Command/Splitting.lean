import SandboxImage.Proofs.Command.Grammar
import SandboxImage.Proofs.Validation.Accepted

/-!
# Commands split over two entries

A cut parts a command if it goes through a quoted segment or between a backslash and the character
that it protects, or if it leaves an operator at an end of a piece (`Command.Parts`). One of the
pieces is then refused, and so is every recipe that lists them as steps one after the other
(`Command.refused_of_parts`).

A first piece that ends inside quotes loses the blanks at its end before it is read. They would not
have closed the quote (`Command.State.isClosed_after_blanks`), so it is still open without them.
-/

namespace SandboxImage.Command

/-! ## Cuts -/

/-- A segment between quotes. -/
inductive Segment.IsQuoted : Segment → Prop
  | single : (single body).IsQuoted
  | double : (double body).IsQuoted

/-- A cut between `p` and `q` that parts what belongs together. -/
inductive Parts (p q : List Char) : Prop
  /-- The cut goes through a quoted segment. -/
  | quoted : Row .gap (front ++ g :: rest) p' → g.IsQuoted → g.text = left ++ right →
      left ≠ [] → right ≠ [] → p = written front ++ left → q = right ++ written rest → Parts p q
  /-- The cut goes between a backslash outside quotes and its character. -/
  | escaping : Row .gap (front ++ .pair c :: rest) p' →
      p = written front ++ ['\\'] → q = c :: written rest → Parts p q
  | before (op : Operator) : op.symbol.toList <+: q → Parts p q
  | after (op : Operator) : op.symbol.toList <:+ p → Parts p q

/-- A row can be taken apart between any two of its segments. -/
theorem Row.of_append (h : Row p (front ++ rest) p'') :
    ∃ p', Row p front p' ∧ Row p' rest p'' := by
  induction front generalizing p with
  | nil => exact ⟨p, .nil, h⟩
  | cons g front ih =>
    cases h with
    | cons hg htail =>
      obtain ⟨p', hfront, hrest⟩ := ih htail
      exact ⟨p', .cons hg hfront, hrest⟩

/-! ## Open quotes -/

/-- Between double quotes the reader stays, also where a backslash has lost its character. -/
theorem isClosed_after_double (h : Protected body) (hleft : left <+: body) :
    (State.double.after left).isClosed = false := by
  induction h generalizing left with
  | nil => rw [List.prefix_nil.1 hleft]; rfl
  | plain hquote hslash _ ih =>
    cases left with
    | nil => rfl
    | cons c left =>
      obtain ⟨rfl, hrest⟩ := List.cons_prefix_cons.1 hleft
      rw [State.after_cons, State.next, if_neg hquote, if_neg hslash]
      exact ih hrest
  | pair _ ih =>
    cases left with
    | nil => rfl
    | cons c left =>
      obtain ⟨rfl, hrest⟩ := List.cons_prefix_cons.1 hleft
      cases left with
      | nil => rfl
      | cons c' left =>
        change (State.double.after left).isClosed = false
        exact ih (List.cons_prefix_cons.1 hrest).2

/-- A cut through what stands between two quotes and the quotes. -/
theorem exists_inner_of_cut {left right body : List Char}
    (h : opening :: (body ++ [closing]) = left ++ right) (hleft : left ≠ []) (hright : right ≠ []) :
    ∃ inner, left = opening :: inner ∧ inner <+: body := by
  cases left with
  | nil => exact absurd rfl hleft
  | cons c inner =>
    obtain ⟨rfl, hbody⟩ := List.cons.inj h
    have hprefix : inner <+: body ++ [closing] := ⟨right, hbody.symm⟩
    refine ⟨inner, rfl, (List.prefix_concat_iff.1 hprefix).resolve_left fun hall => hright ?_⟩
    exact List.self_eq_append_right.1 (hall.trans hbody)

/-- The reader is inside a quoted segment as long as there is more of it. -/
theorem Segment.Leads.isClosed_inside (h : Segment.Leads p g p') (hg : g.IsQuoted)
    (hcut : g.text = left ++ right) (hleft : left ≠ []) (hright : right ≠ []) :
    (p.state.after left).isClosed = false := by
  cases h with
  | gap | start | plain | joint | pair | comment | line => cases hg
  | single hbody hp =>
    obtain ⟨inner, rfl, hinner⟩ := exists_inner_of_cut hcut hleft hright
    rw [State.after_cons, next_quote hp, after_single fun hmem => hbody (hinner.subset hmem)]
    rfl
  | double hbody hp =>
    obtain ⟨inner, rfl, hinner⟩ := exists_inner_of_cut hcut hleft hright
    rw [State.after_cons, next_doubleQuote hp]
    exact isClosed_after_double hbody hinner

theorem State.isClosed_next_blank {q : State} (hq : q.isClosed = true)
    (hc : Text.isBlank c = true) : (q.next c).isClosed = true := by
  have hquote : c ≠ '\'' := by rintro rfl; exact absurd hc (by decide)
  have hdouble : c ≠ '"' := by rintro rfl; exact absurd hc (by decide)
  cases q with
  | single | double | doubleEscape => cases hq
  | gap | word | gapEscape | wordEscape | comment => grind [State.next, State.isClosed]

theorem State.isClosed_after_blanks {q : State} (hq : q.isClosed = true)
    (hblanks : blanks.all Text.isBlank = true) : (q.after blanks).isClosed = true := by
  induction blanks generalizing q with
  | nil => exact hq
  | cons c blanks ih =>
    rw [List.all_cons, Bool.and_eq_true] at hblanks
    exact ih (State.isClosed_next_blank hq hblanks.1) hblanks.2

/-- A quote that is open stays open without the blanks after it. -/
theorem isBalanced_of_trimEnd (h : isBalanced (Text.trimEnd s) = true) : isBalanced s = true := by
  obtain ⟨blanks, hblanks, hs⟩ := Text.exists_blanks_trimEnd s
  rw [← hs, isBalanced, scan_eq, State.after_append]
  exact State.isClosed_after_blanks h hblanks

/-! ## Refused pieces -/

section

variable {p q : String}

theorem fault?_ne_none_of_applies {f : Fault} (hstart : Text.trimStart p.toList = p.toList)
    (hend : Text.trimEnd p.toList = p.toList) (hf : f.Applies p.toList) : fault? p ≠ none := by
  intro hnone
  have hnot := trimmedFault?_eq_none_iff.1 hnone f
  rw [Text.trim, hstart, hend] at hnot
  exact hnot hf

theorem fault?_ne_none_of_open (hstart : Text.trimStart p.toList = p.toList)
    (hopen : (scan p.toList).isClosed = false) : fault? p ≠ none := by
  intro hnone
  have hnot := trimmedFault?_eq_none_iff.1 hnone
  rw [Text.trim, hstart] at hnot
  have hclosed : isBalanced p.toList = true :=
    isBalanced_of_trimEnd ((isBalanced_iff (hnot .continuation)).2 (not_not.1 (hnot .unbalanced)))
  exact absurd hclosed (Bool.eq_false_iff.1 hopen)

/-- An operator is not empty, and no blank stands at its ends. -/
theorem Operator.symbol_solid (op : Operator) : op.symbol.toList ≠ [] ∧
    Text.trimStart op.symbol.toList = op.symbol.toList ∧
    Text.trimEnd op.symbol.toList = op.symbol.toList := by
  cases op with
  | both | either | pipe => decide

theorem fault?_of_parts (htrim : Text.trim (p.toList ++ q.toList) = p.toList ++ q.toList)
    (hcut : Parts p.toList q.toList) : fault? p ≠ none ∨ fault? q ≠ none := by
  have hstart := Text.trimStart_of_trim_append htrim
  have hend := Text.trimEnd_of_trim_append htrim
  cases hcut with
  | quoted hrow hg hsegment hleft hright hp =>
    obtain ⟨p', hfront, hrest⟩ := Row.of_append hrow
    cases hrest with
    | cons hleads =>
      refine .inl (fault?_ne_none_of_open hstart ?_)
      rw [scan_eq, hp, State.after_append]
      exact hfront.after ▸ hleads.isClosed_inside hg hsegment hleft hright
  | escaping _ hp =>
    have hlast : ['\\'] <:+ p.toList := ⟨_, hp.symm⟩
    have hend' := (Text.trimEnd_eq_self_congr hlast (List.cons_ne_nil _ _)).2 (by decide)
    exact .inl (fault?_ne_none_of_applies (f := .continuation) hstart hend' hlast)
  | before op hop =>
    obtain ⟨hne, hsymbol, -⟩ := op.symbol_solid
    have hstart' := (Text.trimStart_eq_self_congr hop hne).2 hsymbol
    exact .inr (fault?_ne_none_of_applies (f := .dangling op) hstart' hend (.inl hop))
  | after op hop =>
    obtain ⟨hne, -, hsymbol⟩ := op.symbol_solid
    have hend' := (Text.trimEnd_eq_self_congr hop hne).2 hsymbol
    exact .inl (fault?_ne_none_of_applies (f := .dangling op) hstart hend' (.inr hop))

end

/-- A command without blanks at its ends that is parted by a cut has a piece that is refused,
whether or not the command itself is. Every recipe that lists the pieces as steps one after the
other is therefore refused. -/
theorem refused_of_parts {p q : String} (htrim : Text.trimmed (p ++ q) = p ++ q)
    (hcut : Parts p.toList q.toList) :
    (fault? p ≠ none ∨ fault? q ≠ none) ∧
      ∀ r : Recipe, [p, q] <:+: r.steps → r.validate.violation ≠ none := by
  have hpieces : fault? p ≠ none ∨ fault? q ≠ none := by
    refine fault?_of_parts ?_ hcut
    rw [← String.toList_append, ← String.ofList_inj, String.ofList_toList]
    exact htrim
  refine ⟨hpieces, fun r hsteps hnone => ?_⟩
  have hall := (stepsFault?_eq_none_iff 0 r.steps).1 (Recipe.Accepted.of_validate hnone).steps
  obtain hp | hq := hpieces
  · exact hp (hall p (hsteps.subset (by simp)))
  · exact hq (hall q (hsteps.subset (by simp)))

/-- A cut at a blank between single quotes: the first piece loses the blank and keeps the open
quote. -/
theorem refused_of_parts_blank :
    Text.trimmed ("echo 'a " ++ "b'") = "echo 'a " ++ "b'" ∧
      Parts "echo 'a ".toList "b'".toList ∧
      (Recipe.mk "alpine" "root" default ["ls", "echo 'a ", "b'"]).validate.violation ≠ none := by
  have htrim : Text.trimmed ("echo 'a " ++ "b'") = "echo 'a " ++ "b'" := by decide +kernel
  have hrow : Row .gap ([.plain 'e', .plain 'c', .plain 'h', .plain 'o', .plain ' '] ++
      .single ['a', ' ', 'b'] :: []) .word := by
    refine .cons (.start ?_ ?_ ?_) (.cons (.plain ?_ ?_) (.cons (.plain ?_ ?_)
      (.cons (.plain ?_ ?_) (.cons (.gap (.inl rfl) ?_) (.cons (.single ?_ ?_) .nil)))))
    all_goals simp [IsGap, Opens]
  have htext : (Segment.single ['a', ' ', 'b']).text = ['\'', 'a', ' '] ++ ['b', '\''] := rfl
  have hparts : Parts "echo 'a ".toList "b'".toList :=
    .quoted hrow .single htext (List.cons_ne_nil _ _) (List.cons_ne_nil _ _) rfl rfl
  exact ⟨htrim, hparts, (refused_of_parts htrim hparts).2 _ ⟨["ls"], [], rfl⟩⟩

end SandboxImage.Command
