import SandboxImage.Proofs.Command.Grammar
import SandboxImage.Proofs.Text.Pieces

/-!
# Commands joined by line feeds

A command that is not refused ends outside quotes, at most in a comment, so the line feed after it
takes the reader back to where it started (`Command.scan_append_newline`). No operator goes across a
line feed. What is joined to such a command is therefore judged on its own, by what is asked of the
end of a command and of its quotes (`Command.fault?_join`), and commands that stand alone can be
joined in any number.
-/

namespace SandboxImage.Command

theorem Operator.newline_not_mem_symbol (op : Operator) : '\n' ∉ op.symbol.toList := by
  cases op with
  | both | either | pipe => decide

/-! ## The reader at a line feed -/

theorem scan_append_newline (h : WellQuoted s) (t : List Char) :
    scan (s ++ '\n' :: t) = scan t := by
  obtain ⟨p, hp⟩ := (wellQuoted_iff s).1 h
  have hgap : p.state.next '\n' = .gap := by
    cases p with
    | gap | word | comment => rfl
  rw [scan_eq, State.after_append, ← scan_eq, hp, State.after_cons, hgap, ← scan_eq]

theorem wellQuoted_append_newline_iff (h : WellQuoted s) :
    WellQuoted (s ++ '\n' :: t) ↔ WellQuoted t := by
  rw [wellQuoted_iff, wellQuoted_iff, scan_append_newline h]

/-! ## Faults -/

/-- A text that can stand on the last line of a command. -/
structure Ends (t : List Char) : Prop where
  noContinuation : ¬ ['\\'] <:+ t
  noOperator : ∀ op : Operator, ¬ op.symbol.toList <:+ t
  wellQuoted : WellQuoted t

theorem Ends.of_trimmedFault? (h : trimmedFault? t = none) : Ends t := by
  have hnot := trimmedFault?_eq_none_iff.1 h
  refine ⟨hnot .continuation, fun op => ?_, not_not.1 (hnot .unbalanced)⟩
  exact (not_or.1 (hnot (.dangling op))).2

/-- A command that stands alone brings its start to what it is joined with, and nothing else. -/
theorem trimmedFault?_append_newline (hs : trimmedFault? s = none) :
    trimmedFault? (s ++ '\n' :: t) = none ↔ Ends t := by
  have hnot := trimmedFault?_eq_none_iff.1 hs
  have hquoted : WellQuoted s := not_not.1 (hnot .unbalanced)
  constructor
  · intro h
    obtain ⟨hcontinuation, hoperator, hends⟩ := Ends.of_trimmedFault? h
    refine ⟨?_, fun op => ?_, (wellQuoted_append_newline_iff hquoted).1 hends⟩
    · rwa [Text.suffix_append_cons_iff (by decide)] at hcontinuation
    · have hop := hoperator op
      rwa [Text.suffix_append_cons_iff op.newline_not_mem_symbol] at hop
  · rintro ⟨hcontinuation, hoperator, hends⟩
    apply trimmedFault?_eq_none_iff.2
    intro f
    cases f with
    | empty => exact List.append_ne_nil_of_right_ne_nil s (List.cons_ne_nil _ _)
    | continuation =>
      rw [Fault.Applies, Text.suffix_append_cons_iff (by decide)]
      exact hcontinuation
    | dangling op =>
      rw [Fault.Applies, Text.prefix_append_cons_iff op.newline_not_mem_symbol,
        Text.suffix_append_cons_iff op.newline_not_mem_symbol, not_or]
      exact ⟨(not_or.1 (hnot (.dangling op))).1, hoperator op⟩
    | unbalanced =>
      rw [Fault.Applies, not_not]
      exact (wellQuoted_append_newline_iff hquoted).2 hends

/-! ## Joined commands -/

section

variable {c d : String}

theorem trim_toList_of_trimmed (h : Text.trimmed c = c) : Text.trim c.toList = c.toList := by
  rw [← String.toList_ofList (l := Text.trim c.toList)]
  exact congrArg String.toList h

theorem toList_ne_nil_of_fault? (h : fault? c = none) : c.toList ≠ [] := by
  intro hnil
  rw [fault?, hnil] at h
  exact absurd h (by decide)

/-- Blanks in the middle do not matter. -/
theorem trimmed_join (hc : Text.trimmed c = c) (hne : c.toList ≠ []) (hd : Text.trimmed d = d)
    (hne' : d.toList ≠ []) : Text.trimmed (c ++ "\n" ++ d) = c ++ "\n" ++ d := by
  obtain ⟨hfirst, -⟩ := Text.trim_eq_self_iff.1 (trim_toList_of_trimmed hc)
  obtain ⟨-, hlast⟩ := Text.trim_eq_self_iff.1 (trim_toList_of_trimmed hd)
  rw [Text.trimmed, ← String.toList_inj, String.toList_ofList]
  apply Text.trim_eq_self_iff.2
  rw [String.toList_append, String.toList_append]
  constructor
  · rwa [List.append_assoc, List.head?_append_of_ne_nil _ hne]
  · rwa [List.getLast?_append_of_ne_nil _ hne']

theorem fault?_join_eq_none_iff (hc : Text.trimmed c = c) (halone : fault? c = none)
    (hd : Text.trimmed d = d) (hne : d.toList ≠ []) :
    fault? (c ++ "\n" ++ d) = none ↔ Ends d.toList := by
  have hjoin := trimmed_join hc (toList_ne_nil_of_fault? halone) hd hne
  rw [fault?, trim_toList_of_trimmed hc] at halone
  rw [fault?, trim_toList_of_trimmed hjoin, String.toList_append, String.toList_append,
    List.append_assoc]
  exact trimmedFault?_append_newline halone

end

/-- By induction on the commands that follow: the rest is joined first. -/
theorem fault?_unlines {c : String} {later : List String}
    (h : ∀ d ∈ c :: later, Text.trimmed d = d ∧ fault? d = none) :
    Text.trimmed (Text.unlines (c :: later)) = Text.unlines (c :: later) ∧
      fault? (Text.unlines (c :: later)) = none := by
  induction later generalizing c with
  | nil => exact h c List.mem_cons_self
  | cons d later ih =>
    obtain ⟨hc, hrest⟩ := List.forall_mem_cons.1 h
    obtain ⟨htrim, halone⟩ := ih hrest
    have hne := toList_ne_nil_of_fault? halone
    have hjoin : Text.unlines (c :: d :: later) = c ++ "\n" ++ Text.unlines (d :: later) :=
      String.intercalate_cons_cons ..
    rw [hjoin]
    refine ⟨trimmed_join hc.1 (toList_ne_nil_of_fault? hc.2) htrim hne, ?_⟩
    apply (fault?_join_eq_none_iff hc.1 hc.2 htrim hne).2
    rw [fault?, trim_toList_of_trimmed htrim] at halone
    exact Ends.of_trimmedFault? halone

/-- To a command without blanks at its ends that is not refused, anything of that form is joined on
a new line. What comes out is refused exactly if the second piece alone, whatever stands at its
start, ends in a backslash or an operator or leaves something open. So any number of commands that
are not refused make one that is not. -/
theorem fault?_join {c : String} (hc : Text.trimmed c = c) (halone : fault? c = none) :
    (∀ d : String, Text.trimmed d = d → d ≠ "" →
      (fault? (c ++ "\n" ++ d) = none ↔ isBalanced d.toList = true ∧ ¬ ['\\'] <:+ d.toList ∧
        ∀ op : Operator, ¬ op.symbol.toList <:+ d.toList) ∧
      (fault? (c ++ "\n" ++ d) = none ↔ Ends d.toList)) ∧
    ∀ later : List String, (∀ d ∈ later, Text.trimmed d = d ∧ fault? d = none) →
      fault? (Text.unlines (c :: later)) = none := by
  refine ⟨fun d hd hne => ?_, fun later hlater => ?_⟩
  · have hiff := fault?_join_eq_none_iff hc halone hd (mt String.toList_eq_nil_iff.1 hne)
    refine ⟨hiff.trans ?_, hiff⟩
    constructor
    · rintro ⟨hcontinuation, hoperator, hquoted⟩
      exact ⟨(isBalanced_iff hcontinuation).2 hquoted, hcontinuation, hoperator⟩
    · rintro ⟨hbalanced, hcontinuation, hoperator⟩
      exact ⟨hcontinuation, hoperator, (isBalanced_iff hcontinuation).1 hbalanced⟩
  · exact (fault?_unlines (List.forall_mem_cons.2 ⟨⟨hc, halone⟩, hlater⟩)).2

/-- A comment with a single quote in it, and then a line that no command could start with. -/
theorem fault?_join_comment :
    Text.trimmed "make # don't stop" = "make # don't stop" ∧ fault? "make # don't stop" = none ∧
      fault? "| tee 'log'" = some (.dangling .pipe) ∧
      fault? ("make # don't stop" ++ "\n" ++ "| tee 'log'") = none ∧
      fault? (Text.unlines ["make # don't stop", "echo \"#\"", "true"]) = none := by
  have htrim : Text.trimmed "make # don't stop" = "make # don't stop" := by decide +kernel
  have halone : fault? "make # don't stop" = none := by decide +kernel
  have htee : Text.trimmed "| tee 'log'" = "| tee 'log'" := by decide +kernel
  obtain ⟨hjoin, hall⟩ := fault?_join htrim halone
  refine ⟨htrim, halone, by decide +kernel, ?_, hall _ ?_⟩
  · apply (hjoin _ htee (by decide)).1.2
    refine ⟨by decide +kernel, by decide, fun op => ?_⟩
    cases op with
    | both | either | pipe => decide
  · decide +kernel

end SandboxImage.Command
