import SandboxImage.Command
import SandboxImage.Proofs.Text.Trim

/-!
# The grammar of commands

A command is a row of segments: characters that stand for themselves, pairs of a backslash and a
character, quoted segments that are closed, and comments. Which segments may follow depends on no
more than whether a word has begun (`Command.Segment.Leads`).

The reader of commands is held to this grammar. It goes through a segment from place to place
(`Command.Segment.Leads.after`); what it ends well on from any of its states is what completes a
row from there (`Command.completes_of_after`); so the texts in which it leaves nothing open are the
rows (`Command.isBalanced_iff`). The main statement is `Command.fault_by_grammar`: a command is
refused for the first of the faults that it has, in their order.
-/

namespace SandboxImage.Command

/-! ## Segments -/

/-- Outside quotes, this character ends a word. -/
def IsGap (c : Char) : Prop := c = ' ' ∨ c = '\t' ∨ c = '\n'

/-- Outside quotes, this character opens something. -/
def Opens (c : Char) : Prop := c = '\'' ∨ c = '"' ∨ c = '\\'

/-- What can stand between double quotes: a backslash protects the character after it. -/
inductive Protected : List Char → Prop
  | nil : Protected []
  | plain : c ≠ '"' → c ≠ '\\' → Protected body → Protected (c :: body)
  | pair : Protected body → Protected ('\\' :: c :: body)

/-- A part of a command that is read as one. -/
inductive Segment where
  | plain (c : Char)
  /-- A backslash and the character that it protects. -/
  | pair (c : Char)
  | single (body : List Char)
  | double (body : List Char)
  /-- The rest of a line, from a number sign. -/
  | comment (body : List Char)

/-- The written form of a segment. -/
def Segment.text : Segment → List Char
  | plain c => [c]
  | pair c => ['\\', c]
  | single body => '\'' :: (body ++ ['\''])
  | double body => '"' :: (body ++ ['"'])
  | comment body => '#' :: body

/-- Where a segment can begin: in front of a word, inside one, or at the end of a comment. -/
inductive Place where
  | gap
  | word
  | comment

theorem Place.gap_ne_comment : Place.gap ≠ .comment := by
  intro h
  cases h

theorem Place.word_ne_comment : Place.word ≠ .comment := by
  intro h
  cases h

/-- A segment that may begin at a place, and the place after it. A backslash with a line feed is
nothing, a number sign begins a comment only where a word can begin, and a comment goes on to the
end of its line. -/
inductive Segment.Leads : Place → Segment → Place → Prop
  | gap : IsGap c → p ≠ .comment → Leads p (plain c) .gap
  | start : ¬ IsGap c → ¬ Opens c → c ≠ '#' → Leads .gap (plain c) .word
  | plain : ¬ IsGap c → ¬ Opens c → Leads .word (plain c) .word
  | joint : p ≠ .comment → Leads p (pair '\n') p
  | pair : c ≠ '\n' → p ≠ .comment → Leads p (pair c) .word
  | single : '\'' ∉ body → p ≠ .comment → Leads p (single body) .word
  | double : Protected body → p ≠ .comment → Leads p (double body) .word
  | comment : '\n' ∉ body → Leads .gap (comment body) .comment
  | line : Leads .comment (.plain '\n') .gap

/-- A row of segments, from one place to another. -/
inductive Row : Place → List Segment → Place → Prop
  | nil : Row p [] p
  | cons : g.Leads p p' → Row p' rest p'' → Row p (g :: rest) p''

/-- The written form of a row. -/
def written (segments : List Segment) : List Char := segments.flatMap Segment.text

@[simp]
theorem written_nil : written [] = [] := rfl

@[simp]
theorem written_cons (g : Segment) (rest : List Segment) :
    written (g :: rest) = g.text ++ written rest := rfl

/-- The text is the written form of a row from this place. -/
def Reads (p : Place) (s : List Char) : Prop :=
  ∃ segments p', Row p segments p' ∧ written segments = s

/-- The text is well quoted: it is the written form of a row of segments. -/
def WellQuoted (s : List Char) : Prop := Reads .gap s

theorem Reads.nil (p : Place) : Reads p [] := ⟨[], p, .nil, rfl⟩

theorem Reads.cons {g : Segment} (hg : g.Leads p p') (h : Reads p' s) : Reads p (g.text ++ s) := by
  obtain ⟨segments, p'', hrow, rfl⟩ := h
  exact ⟨g :: segments, p'', .cons hg hrow, rfl⟩

/-! ## The reader on a row -/

/-- The state of the reader at a place. -/
def Place.state : Place → State
  | gap => .gap
  | word => .word
  | comment => .comment

/-- The state after more of a text. -/
def State.after (q : State) (s : List Char) : State := s.foldl State.next q

@[simp]
theorem State.after_nil (q : State) : q.after [] = q := rfl

@[simp]
theorem State.after_cons (q : State) (c : Char) (s : List Char) :
    q.after (c :: s) = (q.next c).after s := rfl

@[simp]
theorem State.after_append (q : State) (s t : List Char) : q.after (s ++ t) = (q.after s).after t :=
  List.foldl_append ..

theorem scan_eq (s : List Char) : scan s = State.gap.after s := rfl

theorem next_of_isGap (h : IsGap c) (hp : p ≠ .comment) : (Place.state p).next c = .gap := by
  cases p with
  | comment => exact absurd rfl hp
  | gap => obtain rfl | rfl | rfl := h <;> rfl
  | word => obtain rfl | rfl | rfl := h <;> rfl

theorem next_quote (hp : p ≠ .comment) : (Place.state p).next '\'' = .single := by
  cases p with
  | comment => exact absurd rfl hp
  | gap => rfl
  | word => rfl

theorem next_doubleQuote (hp : p ≠ .comment) : (Place.state p).next '"' = .double := by
  cases p with
  | comment => exact absurd rfl hp
  | gap => rfl
  | word => rfl

theorem next_start (hgap : ¬ IsGap c) (hopens : ¬ Opens c) (hsharp : c ≠ '#') :
    State.gap.next c = .word := by
  simp only [Opens, not_or] at hopens
  rw [State.next, if_neg hopens.1, if_neg hopens.2.1, if_neg hopens.2.2]
  exact (if_neg hgap).trans (if_neg hsharp)

theorem next_plain (hgap : ¬ IsGap c) (hopens : ¬ Opens c) : State.word.next c = .word := by
  simp only [Opens, not_or] at hopens
  rw [State.next, if_neg hopens.1, if_neg hopens.2.1, if_neg hopens.2.2]
  exact if_neg hgap

/-- A state that no character of the text changes. -/
theorem State.after_eq_self {q : State} (h : ∀ c ∈ s, q.next c = q) : q.after s = q := by
  induction s with
  | nil => rfl
  | cons c s ih =>
    rw [State.after_cons, h c List.mem_cons_self]
    exact ih fun c' hc' => h c' (List.mem_cons_of_mem c hc')

theorem after_single (h : '\'' ∉ body) : State.single.after body = .single :=
  State.after_eq_self fun _ hc => if_neg (ne_of_mem_of_not_mem hc h)

theorem after_comment (h : '\n' ∉ body) : State.comment.after body = .comment :=
  State.after_eq_self fun _ hc => if_neg (ne_of_mem_of_not_mem hc h)

theorem after_double (h : Protected body) : State.double.after body = .double := by
  induction h with
  | nil => rfl
  | plain hquote hslash _ ih => rw [State.after_cons, State.next, if_neg hquote, if_neg hslash, ih]
  | pair _ ih =>
    rw [State.after_cons, State.after_cons]
    exact ih

theorem Segment.Leads.after (h : Leads p g p') : p.state.after g.text = p'.state := by
  cases h with
  | gap hc hp => exact next_of_isGap hc hp
  | start hc ho hsharp => exact next_start hc ho hsharp
  | plain hc ho => exact next_plain hc ho
  | joint hp =>
    cases p with
    | comment => exact absurd rfl hp
    | gap => rfl
    | word => rfl
  | pair hc hp =>
    cases p with
    | comment => exact absurd rfl hp
    | gap => exact if_neg hc
    | word => rfl
  | single hbody hp =>
    rw [Segment.text, State.after_cons, next_quote hp, State.after_append, after_single hbody]
    rfl
  | double hbody hp =>
    rw [Segment.text, State.after_cons, next_doubleQuote hp, State.after_append,
      after_double hbody]
    rfl
  | comment hbody => exact after_comment hbody
  | line => rfl

theorem Row.after (h : Row p segments p') : p.state.after (written segments) = p'.state := by
  induction h with
  | nil => rfl
  | cons hg _ ih => rw [written_cons, State.after_append, hg.after, ih]

/-! ## What the reader ends well on -/

/-- What completes a row from a state of the reader: after a backslash and inside quotes, the rest
of the segment comes first. -/
def Completes : State → List Char → Prop
  | .gap, s => Reads .gap s
  | .word, s => Reads .word s
  | .gapEscape, s => Reads .gap ('\\' :: s)
  | .wordEscape, s => Reads .word ('\\' :: s)
  | .single, s => ∃ body rest, s = body ++ '\'' :: rest ∧ '\'' ∉ body ∧ Reads .word rest
  | .double, s => ∃ body rest, s = body ++ '"' :: rest ∧ Protected body ∧ Reads .word rest
  | .doubleEscape, s =>
    ∃ c body rest, s = c :: (body ++ '"' :: rest) ∧ Protected body ∧ Reads .word rest
  | .comment, s => ∃ body rest, s = body ++ rest ∧ '\n' ∉ body ∧ Reads .comment rest

theorem Completes.place (p : Place) : Completes p.state [] := by
  cases p with
  | gap => exact Reads.nil _
  | word => exact Reads.nil _
  | comment => exact ⟨[], [], rfl, List.not_mem_nil, Reads.nil _⟩

theorem Completes.quote (h : Completes .single s) (hp : p ≠ .comment) :
    Reads p ('\'' :: s) := by
  obtain ⟨body, rest, rfl, hbody, hrest⟩ := h
  have hreads := Reads.cons (.single hbody hp) hrest
  simpa [Segment.text] using hreads

theorem Completes.doubleQuote (h : Completes .double s) (hp : p ≠ .comment) :
    Reads p ('"' :: s) := by
  obtain ⟨body, rest, rfl, hbody, hrest⟩ := h
  have hreads := Reads.cons (.double hbody hp) hrest
  simpa [Segment.text] using hreads

/-- A character outside quotes and comments, in front of what completes the row after it. -/
theorem Completes.outside (hp : p ≠ .comment) (h : Completes ((Place.state p).next c) s) :
    Reads p (c :: s) := by
  by_cases hquote : c = '\''
  · rw [hquote, next_quote hp] at h
    exact hquote ▸ h.quote hp
  by_cases hdouble : c = '"'
  · rw [hdouble, next_doubleQuote hp] at h
    exact hdouble ▸ h.doubleQuote hp
  by_cases hslash : c = '\\'
  · cases p with
    | comment => exact absurd rfl hp
    | gap => exact hslash ▸ h
    | word => exact hslash ▸ h
  by_cases hgap : IsGap c
  · rw [next_of_isGap hgap hp] at h
    exact Reads.cons (.gap hgap hp) h
  have hopens : ¬ Opens c := by
    rintro (hc | hc | hc)
    · exact hquote hc
    · exact hdouble hc
    · exact hslash hc
  cases p with
  | comment => exact absurd rfl hp
  | word =>
    change Completes (State.word.next c) s at h
    rw [next_plain hgap hopens] at h
    exact Reads.cons (.plain hgap hopens) h
  | gap =>
    by_cases hsharp : c = '#'
    · subst hsharp
      obtain ⟨body, rest, rfl, hbody, hrest⟩ := h
      exact Reads.cons (.comment hbody) hrest
    · change Completes (State.gap.next c) s at h
      rw [next_start hgap hopens hsharp] at h
      exact Reads.cons (.start hgap hopens hsharp) h

/-- A backslash outside quotes, with the character that it protects. -/
theorem Reads.protect (hp : p ≠ .comment) (h : Reads (if c = '\n' then p else .word) s) :
    Reads p ('\\' :: c :: s) := by
  by_cases hc : c = '\n'
  · rw [if_pos hc] at h
    exact hc ▸ Reads.cons (.joint hp) h
  · rw [if_neg hc] at h
    exact Reads.cons (.pair hc hp) h

/-- One character more in front. -/
theorem Completes.cons (q : State) (h : Completes (q.next c) s) : Completes q (c :: s) := by
  cases q with
  | gap => exact .outside Place.gap_ne_comment h
  | word => exact .outside Place.word_ne_comment h
  | gapEscape =>
    refine Reads.protect Place.gap_ne_comment ?_
    split
    next hc => rwa [State.next, if_pos hc] at h
    next hc => rwa [State.next, if_neg hc] at h
  | wordEscape => exact Reads.protect Place.word_ne_comment ((ite_self Place.word).symm ▸ h)
  | single =>
    by_cases hc : c = '\''
    · rw [State.next, if_pos hc] at h
      exact ⟨[], s, by rw [hc]; rfl, List.not_mem_nil, h⟩
    · rw [State.next, if_neg hc] at h
      obtain ⟨body, rest, rfl, hbody, hrest⟩ := h
      exact ⟨c :: body, rest, rfl, List.not_mem_cons_of_ne_of_not_mem (Ne.symm hc) hbody, hrest⟩
  | double =>
    by_cases hquote : c = '"'
    · rw [State.next, if_pos hquote] at h
      exact ⟨[], s, by rw [hquote]; rfl, .nil, h⟩
    · by_cases hslash : c = '\\'
      · rw [State.next, if_neg hquote, if_pos hslash] at h
        obtain ⟨c', body, rest, rfl, hbody, hrest⟩ := h
        exact ⟨'\\' :: c' :: body, rest, by rw [hslash]; rfl, .pair hbody, hrest⟩
      · rw [State.next, if_neg hquote, if_neg hslash] at h
        obtain ⟨body, rest, rfl, hbody, hrest⟩ := h
        exact ⟨c :: body, rest, rfl, .plain hquote hslash hbody, hrest⟩
  | doubleEscape =>
    obtain ⟨body, rest, rfl, hbody, hrest⟩ := h
    exact ⟨c, body, rest, rfl, hbody, hrest⟩
  | comment =>
    by_cases hc : c = '\n'
    · rw [State.next, if_pos hc] at h
      exact ⟨[], c :: s, rfl, List.not_mem_nil, hc ▸ Reads.cons .line h⟩
    · rw [State.next, if_neg hc] at h
      obtain ⟨body, rest, rfl, hbody, hrest⟩ := h
      exact ⟨c :: body, rest, rfl, List.not_mem_cons_of_ne_of_not_mem (Ne.symm hc) hbody, hrest⟩

/-- By induction on the text: what the reader ends at a place on completes a row. -/
theorem completes_of_after (h : State.after q s = Place.state p) : Completes q s := by
  induction s generalizing q with
  | nil => exact (show q = p.state from h) ▸ Completes.place p
  | cons c s ih => exact Completes.cons q (ih h)

theorem wellQuoted_iff (s : List Char) : WellQuoted s ↔ ∃ p, scan s = Place.state p := by
  constructor
  · rintro ⟨segments, p, hrow, rfl⟩
    exact ⟨p, hrow.after⟩
  · rintro ⟨p, h⟩
    exact completes_of_after h

/-- The reader is between a backslash and the character that it protects. -/
def State.waits : State → Bool
  | .gapEscape | .wordEscape | .doubleEscape => true
  | _ => false

/-- Nothing but a backslash makes the reader wait. -/
theorem eq_backslash_of_next {q : State} (h : (q.next c).waits = true) : c = '\\' := by
  cases q with
  | gap | word | gapEscape | wordEscape | single | double | doubleEscape | comment =>
    grind [State.next, State.waits]

theorem backslash_suffix (h : (scan s).waits = true) : ['\\'] <:+ s := by
  cases s using List.reverseRecOn with
  | nil => exact absurd h (by decide)
  | append_singleton s c =>
    rw [scan_eq, State.after_append] at h
    have hc : c = '\\' := eq_backslash_of_next h
    exact hc ▸ List.suffix_append s [c]

/-- Only a text with a backslash at its end leaves the reader outside quotes and yet in the middle
of a segment. -/
theorem isBalanced_iff (hlast : ¬ ['\\'] <:+ s) : isBalanced s = true ↔ WellQuoted s := by
  rw [wellQuoted_iff, isBalanced]
  constructor
  · intro hclosed
    cases hstate : scan s with
    | gap => exact ⟨.gap, rfl⟩
    | word => exact ⟨.word, rfl⟩
    | comment => exact ⟨.comment, rfl⟩
    | single | double | doubleEscape => rw [hstate] at hclosed; cases hclosed
    | gapEscape | wordEscape => exact absurd (backslash_suffix (by rw [hstate]; rfl)) hlast
  · rintro ⟨p, hp⟩
    rw [hp]
    cases p with
    | gap | word | comment => rfl

/-! ## Faults -/

/-- What a fault says of a command without blanks at its ends. -/
def Fault.Applies (t : List Char) : Fault → Prop
  | .empty => t = []
  | .continuation => ['\\'] <:+ t
  | .dangling op => op.symbol.toList <+: t ∨ op.symbol.toList <:+ t
  | .unbalanced => ¬ WellQuoted t

/-- The faults in the order in which they are looked for. -/
def Fault.order : List Fault :=
  [.empty, .continuation, .dangling .both, .dangling .either, .dangling .pipe, .unbalanced]

theorem dangles_iff (op : Operator) : op.dangles t = true ↔ (Fault.dangling op).Applies t := by
  rw [Operator.dangles, Bool.or_eq_true, List.isSuffixOf_iff_suffix, List.isPrefixOf_iff_prefix,
    or_comm]
  rfl

open Classical in
theorem trimmedFault?_eq_find? (t : List Char) :
    trimmedFault? t = Fault.order.find? fun f => decide (f.Applies t) := by
  have horder : Fault.order =
      .empty :: .continuation :: (Operator.all.map Fault.dangling ++ [.unbalanced]) := rfl
  have hempty : t.isEmpty = decide (Fault.empty.Applies t) := by
    rw [Bool.eq_iff_iff, decide_eq_true_iff]
    exact List.isEmpty_iff
  have hlast : t.getLast? = some '\\' ↔ Fault.continuation.Applies t :=
    List.singleton_suffix_iff_getLast?_eq_some.symm
  have hdangling : Operator.dangles t = (fun f : Fault => decide (f.Applies t)) ∘ .dangling := by
    funext op
    rw [Bool.eq_iff_iff, dangles_iff, Function.comp, decide_eq_true_iff]
  rw [horder, List.find?_cons, List.find?_cons, List.find?_append, List.find?_map, ← hdangling,
    trimmedFault?, hempty]
  by_cases hnil : Fault.empty.Applies t
  · simp [hnil]
  by_cases hbackslash : Fault.continuation.Applies t
  · simp [hnil, hlast, hbackslash]
  cases hfound : Operator.all.find? (Operator.dangles t) with
  | some op => simp [hnil, hlast, hbackslash]
  | none =>
    have hquotes : isBalanced t = true ↔ ¬ Fault.unbalanced.Applies t :=
      (isBalanced_iff hbackslash).trans not_not.symm
    by_cases hunbalanced : Fault.unbalanced.Applies t
    · simp [hnil, hlast, hbackslash, hquotes, hunbalanced]
    · simp [hnil, hlast, hbackslash, hquotes, hunbalanced]

theorem trimmedFault?_eq_none_iff : trimmedFault? t = none ↔ ∀ f : Fault, ¬ f.Applies t := by
  have hall (f : Fault) : f ∈ Fault.order := by
    cases f with
    | empty | continuation | unbalanced => decide
    | dangling op =>
      cases op with
      | both | either | pipe => decide
  rw [trimmedFault?_eq_find?, List.find?_eq_none]
  simp only [decide_eq_true_iff]
  exact ⟨fun h f => h f (hall f), fun h f _ => h f⟩

theorem trimmedFault?_eq_some_iff : trimmedFault? t = some f ↔
    ∃ earlier later, Fault.order = earlier ++ f :: later ∧ f.Applies t ∧
      ∀ g ∈ earlier, ¬ g.Applies t := by
  rw [trimmedFault?_eq_find?, List.find?_eq_some_iff_append]
  simp only [decide_eq_true_iff, Bool.not_eq_true', decide_eq_false_iff_not]
  constructor
  · rintro ⟨happlies, earlier, later, horder, hearlier⟩
    exact ⟨earlier, later, horder, happlies, hearlier⟩
  · rintro ⟨earlier, later, horder, happlies, hearlier⟩
    exact ⟨happlies, earlier, later, horder, hearlier⟩

/-- The check of a command, held to the grammar. Blanks added or removed at the ends do not change
its answer. Of the command without them it asks that it be there, end in no backslash, neither start
nor end with an operator, and be well quoted; otherwise it names the first fault in the order. -/
theorem fault_by_grammar (c : String) :
    (∀ b b' : String, Text.isBlankText b = true → Text.isBlankText b' = true →
      fault? (b ++ c ++ b') = fault? c) ∧
    let t := Text.trim c.toList
    (fault? c = none ↔ t ≠ [] ∧ ¬ ['\\'] <:+ t ∧
      (∀ op : Operator, ¬ op.symbol.toList <+: t ∧ ¬ op.symbol.toList <:+ t) ∧ WellQuoted t) ∧
    ∀ f, fault? c = some f ↔ ∃ earlier later, Fault.order = earlier ++ f :: later ∧
      f.Applies t ∧ ∀ g ∈ earlier, ¬ g.Applies t := by
  refine ⟨fun b b' hb hb' => ?_, ?_, fun f => trimmedFault?_eq_some_iff⟩
  · rw [fault?, fault?, String.toList_append, String.toList_append,
      Text.trim_append_blanks hb hb']
  · refine trimmedFault?_eq_none_iff.trans ⟨fun h => ?_, ?_⟩
    · exact ⟨h .empty, h .continuation, fun op => not_or.1 (h (.dangling op)),
        not_not.1 (h .unbalanced)⟩
    · rintro ⟨hnil, hlast, hops, hquoted⟩ f
      cases f with
      | empty => exact hnil
      | continuation => exact hlast
      | dangling op => exact not_or.2 (hops op)
      | unbalanced => exact not_not.2 hquoted

/-- An operator in front, blanks around and a quote left open: the operator comes first. -/
theorem fault_by_grammar_pipe :
    Text.isBlankText "\u2003" = true ∧ Text.isBlankText "\n" = true ∧
      fault? ("\u2003" ++ "| cat 'x" ++ "\n") = some (.dangling .pipe) := by
  have hstart : Text.isBlankText "\u2003" = true := by decide +kernel
  have hend : Text.isBlankText "\n" = true := by decide +kernel
  have htrim : Text.trim "| cat 'x".toList = "| cat 'x".toList := by decide +kernel
  obtain ⟨hblanks, -, hfirst⟩ := fault_by_grammar "| cat 'x"
  refine ⟨hstart, hend, (hblanks _ _ hstart hend).trans ((hfirst _).2 ?_)⟩
  rw [htrim]
  refine ⟨[.empty, .continuation, .dangling .both, .dangling .either], [.unbalanced], rfl,
    .inl (by decide), ?_⟩
  simp only [List.forall_mem_cons, List.not_mem_nil, false_imp_iff, implies_true, and_true,
    Fault.Applies]
  decide

end SandboxImage.Command
