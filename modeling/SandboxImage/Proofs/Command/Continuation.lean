import Mathlib.Algebra.Ring.Parity
import Mathlib.Data.List.Induction
import SandboxImage.Proofs.Command.Grammar

/-!
# Backslashes at the end of a command

Any command with a backslash at its end is refused as one that goes on. It does go on if the last
backslash waits for the character that it protects (`Command.Waits`). It does not if that backslash
is itself protected, or stands for itself because single quotes or a comment are open
(`Command.Literal`).

Each state of the reader has its texts in the grammar (`outside_iff`, `inSingle_iff`,
`inDouble_iff`, `inComment_iff`). Along a run of backslashes the reader waits after every other one
(`State.waits_run`), so of a command with `n` backslashes at its end the last one waits exactly if
`n` is odd and they do not stand for themselves (`Command.continuation_by_run`).
-/

namespace SandboxImage.Command

/-! ## Where a text ends -/

/-- The text ends outside quotes and comments. -/
def Outside (s : List Char) : Prop :=
  ∃ segments p, Row .gap segments p ∧ p ≠ .comment ∧ written segments = s

/-- The text ends in a comment. -/
def InComment (s : List Char) : Prop :=
  ∃ segments, Row .gap segments .comment ∧ written segments = s

/-- The text ends between single quotes. -/
inductive InSingle (s : List Char) : Prop
  | intro : Outside front → '\'' ∉ body → s = front ++ '\'' :: body → InSingle s

/-- The text ends between double quotes, and no backslash waits there. -/
inductive InDouble (s : List Char) : Prop
  | intro : Outside front → Protected body → s = front ++ '"' :: body → InDouble s

/-- The last backslash of the text waits for the character that it protects. -/
inductive Waits (t : List Char) : Prop
  | outside : Outside s → t = s ++ ['\\'] → Waits t
  | double : InDouble s → t = s ++ ['\\'] → Waits t

/-- After the text a backslash stands for itself. -/
inductive Literal (s : List Char) : Prop
  | single : InSingle s → Literal s
  | comment : InComment s → Literal s

theorem Place.state_injective : Function.Injective Place.state := by
  intro p p' h
  cases p <;> cases p' <;> first | rfl | cases h

theorem exists_row_iff : (∃ segments, Row .gap segments p ∧ written segments = s) ↔
    scan s = p.state := by
  constructor
  · rintro ⟨segments, hrow, rfl⟩
    exact hrow.after
  · intro h
    obtain ⟨segments, p', hrow, rfl⟩ := (wellQuoted_iff s).2 ⟨p, h⟩
    exact ⟨segments, Place.state_injective (hrow.after.symm.trans h) ▸ hrow, rfl⟩

theorem outside_iff : Outside s ↔ ∃ p, p ≠ .comment ∧ scan s = Place.state p := by
  constructor
  · rintro ⟨segments, p, hrow, hp, hs⟩
    exact ⟨p, hp, exists_row_iff.1 ⟨segments, hrow, hs⟩⟩
  · rintro ⟨p, hp, h⟩
    obtain ⟨segments, hrow, hs⟩ := exists_row_iff.2 h
    exact ⟨segments, p, hrow, hp, hs⟩

theorem inComment_iff : InComment s ↔ scan s = .comment := exists_row_iff

theorem scan_concat (s : List Char) (c : Char) : scan (s ++ [c]) = (scan s).next c :=
  State.after_append ..

/-! What the reader has just passed, if it is between quotes. -/

theorem State.next_eq_single {q : State} (h : q.next c = .single) :
    (∃ p, p ≠ .comment ∧ q = Place.state p ∧ c = '\'') ∨ q = .single ∧ c ≠ '\'' := by
  cases q with
  | gap => exact .inl ⟨.gap, Place.gap_ne_comment, rfl, by grind [State.next]⟩
  | word => exact .inl ⟨.word, Place.word_ne_comment, rfl, by grind [State.next]⟩
  | single | gapEscape | wordEscape | double | doubleEscape | comment => grind [State.next]

theorem State.next_eq_double {q : State} (h : q.next c = .double) :
    (∃ p, p ≠ .comment ∧ q = Place.state p ∧ c = '"') ∨
      q = .double ∧ c ≠ '"' ∧ c ≠ '\\' ∨ q = .doubleEscape := by
  cases q with
  | gap => exact .inl ⟨.gap, Place.gap_ne_comment, rfl, by grind [State.next]⟩
  | word => exact .inl ⟨.word, Place.word_ne_comment, rfl, by grind [State.next]⟩
  | single | gapEscape | wordEscape | double | doubleEscape | comment => grind [State.next]

theorem State.next_eq_doubleEscape {q : State} (h : q.next c = .doubleEscape) :
    q = .double ∧ c = '\\' := by
  cases q with
  | gap | word | single | gapEscape | wordEscape | double | doubleEscape | comment =>
    grind [State.next]

theorem inSingle_of_scan (h : scan s = .single) : InSingle s := by
  induction s using List.reverseRecOn with
  | nil => cases h
  | append_singleton s c ih =>
    rw [scan_concat] at h
    obtain ⟨p, hp, hs, rfl⟩ | ⟨hs, hc⟩ := State.next_eq_single h
    · exact .intro (outside_iff.2 ⟨p, hp, hs⟩) List.not_mem_nil rfl
    · obtain ⟨hfront, hbody, rfl⟩ := ih hs
      refine .intro hfront ?_ (List.append_assoc ..)
      exact fun hmem => (List.mem_append.1 hmem).elim hbody fun hc' =>
        hc (List.mem_singleton.1 hc').symm

theorem Protected.append (h : Protected a) (h' : Protected b) : Protected (a ++ b) := by
  induction h with
  | nil => exact h'
  | plain hquote hslash _ ih => exact .plain hquote hslash ih
  | pair _ ih => exact .pair ih

/-- By induction from the end of the text. A pair takes two steps, so the states on its two sides
are dealt with together. -/
theorem inDouble_of_scan (s : List Char) : (scan s = .double → InDouble s) ∧
    (scan s = .doubleEscape → ∃ t, s = t ++ ['\\'] ∧ InDouble t) := by
  induction s using List.reverseRecOn with
  | nil =>
    constructor
    · rintro ⟨⟩
    · rintro ⟨⟩
  | append_singleton s c ih =>
    obtain ⟨ihdouble, ihescape⟩ := ih
    rw [scan_concat]
    refine ⟨fun h => ?_, fun h => ?_⟩
    · obtain ⟨p, hp, hs, rfl⟩ | ⟨hs, hquote, hslash⟩ | hs := State.next_eq_double h
      · exact .intro (outside_iff.2 ⟨p, hp, hs⟩) .nil rfl
      · obtain ⟨hfront, hbody, rfl⟩ := ihdouble hs
        exact .intro hfront (hbody.append (.plain hquote hslash .nil)) (List.append_assoc ..)
      · obtain ⟨t, rfl, ⟨hfront, hbody, rfl⟩⟩ := ihescape hs
        exact .intro hfront (hbody.append (.pair (c := c) .nil)) (by simp)
    · obtain ⟨hs, rfl⟩ := State.next_eq_doubleEscape h
      exact ⟨s, rfl, ihdouble hs⟩

theorem inSingle_iff : InSingle s ↔ scan s = .single := by
  refine ⟨?_, inSingle_of_scan⟩
  rintro ⟨hfront, hbody, rfl⟩
  obtain ⟨p, hp, hscan⟩ := outside_iff.1 hfront
  rw [scan_eq, State.after_append, ← scan_eq, hscan, State.after_cons, next_quote hp,
    after_single hbody]

theorem inDouble_iff : InDouble s ↔ scan s = .double := by
  refine ⟨?_, (inDouble_of_scan s).1⟩
  rintro ⟨hfront, hbody, rfl⟩
  obtain ⟨p, hp, hscan⟩ := outside_iff.1 hfront
  rw [scan_eq, State.after_append, ← scan_eq, hscan, State.after_cons, next_doubleQuote hp,
    after_double hbody]

/-! ## Runs of backslashes -/

/-- The reader takes a backslash for itself. -/
def State.isLiteral : State → Bool
  | .single | .comment => true
  | _ => false

theorem literal_iff : Literal s ↔ (scan s).isLiteral = true := by
  constructor
  · rintro (h | h)
    · rw [inSingle_iff.1 h]; rfl
    · rw [inComment_iff.1 h]; rfl
  · intro h
    cases hscan : scan s with
    | single => exact .single (inSingle_iff.2 hscan)
    | comment => exact .comment (inComment_iff.2 hscan)
    | gap | word | gapEscape | wordEscape | double | doubleEscape => rw [hscan] at h; cases h

theorem waits_iff : Waits t ↔ (scan t).waits = true := by
  constructor
  · rintro (⟨h, rfl⟩ | ⟨h, rfl⟩)
    · obtain ⟨p, hp, hscan⟩ := outside_iff.1 h
      rw [scan_concat, hscan]
      cases p with
      | comment => exact absurd rfl hp
      | gap | word => rfl
    · rw [scan_concat, inDouble_iff.1 h]; rfl
  · intro h
    obtain ⟨s, rfl⟩ := backslash_suffix h
    rw [scan_concat] at h
    cases hscan : scan s with
    | gap => exact .outside (outside_iff.2 ⟨.gap, Place.gap_ne_comment, hscan⟩) rfl
    | word => exact .outside (outside_iff.2 ⟨.word, Place.word_ne_comment, hscan⟩) rfl
    | double => exact .double (inDouble_iff.2 hscan) rfl
    | single | gapEscape | wordEscape | doubleEscape | comment => rw [hscan] at h; cases h

theorem State.next_backslash (q : State) : (q.next '\\').isLiteral = q.isLiteral ∧
    (q.next '\\').waits = (!q.isLiteral && !q.waits) := by
  cases q with
  | gap | word | gapEscape | wordEscape | single | double | doubleEscape | comment =>
    exact ⟨rfl, rfl⟩

theorem State.waits_run {q : State} (hq : q.isLiteral = false) (n : Nat) :
    (q.after (List.replicate n '\\')).waits = (q.waits ^^ decide (Odd n)) := by
  induction n generalizing q with
  | zero => simp
  | succ n ih =>
    obtain ⟨hliteral, hwaits⟩ := q.next_backslash
    rw [List.replicate_succ, State.after_cons, ih (hliteral.trans hq), hwaits, hq]
    simp only [Nat.odd_add_one, decide_not, Bool.not_false, Bool.true_and]
    rw [Bool.not_xor, Bool.xor_not]

theorem State.isLiteral_run (q : State) (n : Nat) :
    (q.after (List.replicate n '\\')).isLiteral = q.isLiteral := by
  induction n generalizing q with
  | zero => rfl
  | succ n ih => exact (ih _).trans q.next_backslash.1

theorem State.waits_of_isLiteral {q : State} (h : q.isLiteral = true) : q.waits = false := by
  cases q with
  | single | comment => rfl
  | gap | word | gapEscape | wordEscape | double | doubleEscape => cases h

theorem waits_append_run_iff (hs : ¬ ['\\'] <:+ s) (n : Nat) :
    Waits (s ++ List.replicate n '\\') ↔ Odd n ∧ ¬ Literal s := by
  rw [waits_iff, literal_iff, scan_eq, State.after_append, ← scan_eq]
  cases hliteral : (scan s).isLiteral with
  | true =>
    rw [State.waits_of_isLiteral ((State.isLiteral_run _ n).trans hliteral)]
    simp
  | false =>
    have hwaits : (scan s).waits = false := Bool.eq_false_iff.2 (mt backslash_suffix hs)
    rw [State.waits_run hliteral, hwaits]
    simp

/-! ## The fault -/

theorem exists_run (c : Char) (t : List Char) :
    ∃ s n, t = s ++ List.replicate n c ∧ ¬ [c] <:+ s := by
  induction t using List.reverseRecOn with
  | nil => exact ⟨[], 0, rfl, by simp⟩
  | append_singleton t c' ih =>
    by_cases hc : c' = c
    · obtain ⟨s, n, rfl, hs⟩ := ih
      exact ⟨s, n + 1, by rw [hc, List.replicate_succ', List.append_assoc], hs⟩
    · refine ⟨t ++ [c'], 0, (List.append_nil _).symm, ?_⟩
      simpa [List.singleton_suffix_iff_getLast?_eq_some] using hc

theorem suffix_append_run_iff (hs : ¬ [c] <:+ s) (n : Nat) :
    [c] <:+ s ++ List.replicate n c ↔ n ≠ 0 := by
  cases n with
  | zero => simpa using hs
  | succ n =>
    rw [List.replicate_succ', ← List.append_assoc]
    exact iff_of_true (List.suffix_append _ _) (Nat.succ_ne_zero n)

theorem trimmedFault?_eq_continuation_iff :
    trimmedFault? t = some .continuation ↔ ['\\'] <:+ t := by
  rw [trimmedFault?_eq_some_iff]
  constructor
  · rintro ⟨_, _, _, happlies, -⟩
    exact happlies
  · intro h
    refine ⟨[.empty], _, rfl, h, List.forall_mem_singleton.2 ?_⟩
    rintro rfl
    exact absurd (List.suffix_nil.1 h) (List.cons_ne_nil _ _)

theorem WellQuoted.not_waits (h : WellQuoted t) : ¬ Waits t := by
  obtain ⟨p, hp⟩ := (wellQuoted_iff t).1 h
  rw [waits_iff, hp]
  cases p with
  | gap | word | comment => exact Bool.false_ne_true

/-- A command that is well quoted waits for nothing, but every command with a backslash at its end
is refused as one that goes on. Of `n` backslashes there the last one waits for its character, as
the reader has it too, exactly if `n` is odd and they do not stand for themselves. -/
theorem continuation_by_run (c : String) :
    (WellQuoted (Text.trim c.toList) → ¬ Waits (Text.trim c.toList)) ∧
    let t := Text.trim c.toList
    ∃ s n, t = s ++ List.replicate n '\\' ∧ ¬ ['\\'] <:+ s ∧
      (fault? c = some .continuation ↔ n ≠ 0) ∧
      (Waits t ↔ (scan t).waits = true) ∧
      (Waits t ↔ Odd n ∧ ¬ Literal s) := by
  obtain ⟨s, n, ht, hs⟩ := exists_run '\\' (Text.trim c.toList)
  refine ⟨WellQuoted.not_waits, s, n, ht, hs, ?_, waits_iff, ?_⟩
  · rw [fault?, trimmedFault?_eq_continuation_iff, ht]
    exact suffix_append_run_iff hs n
  · rw [ht]
    exact waits_append_run_iff hs n

/-- A complete command that ends in a protected backslash is refused as one that goes on. -/
theorem continuation_of_pair :
    let t := Text.trim "echo \\\\".toList
    fault? "echo \\\\" = some .continuation ∧ WellQuoted t ∧ ¬ Waits t := by
  intro t
  have ht : t = "echo \\\\".toList := by decide +kernel
  have hquoted : WellQuoted t := (wellQuoted_iff t).2 ⟨.word, by rw [ht]; rfl⟩
  refine ⟨trimmedFault?_eq_continuation_iff.2 ?_, hquoted, hquoted.not_waits⟩
  exact ht ▸ List.suffix_append "echo \\".toList _

end SandboxImage.Command
