import Mathlib.Algebra.Group.Nat.Defs
import Mathlib.Data.List.Basic
import SandboxImage.Fingerprint
import SandboxImage.Proofs.Text.Utf8

/-!
# Values told apart by their bytes

A code is delimited if its values can be read off the front of a longer stream. That of texts is,
because of the byte after a text; that of collections is, because of the size before them; and codes
one after the other are (`Delimited.append`). So recipes have streams of their own, none of which
starts another (`Recipe.feed_identifies`).
-/

namespace SandboxImage

variable {α β γ : Type}

/-- The code `f` of values with `D` can be read off the front of a stream. -/
def Delimited (D : α → Prop) (f : α → List β) : Prop :=
  ∀ ⦃a b : α⦄, D a → D b → ∀ ⦃x y : List β⦄, f a ++ x = f b ++ y → a = b ∧ x = y

namespace Delimited

variable {D : α → Prop} {E : γ → Prop} {f : α → List β} {g : γ → List β}

theorem inj (h : Delimited D f) {a b : α} (ha : D a) (hb : D b) (hab : f a = f b) : a = b :=
  (h ha hb (congrArg (· ++ []) hab)).1

/-- No code starts another one. -/
theorem eq_of_prefix (h : Delimited D f) {a b : α} (ha : D a) (hb : D b) (hab : f a <+: f b) :
    a = b := by
  obtain ⟨x, hx⟩ := hab
  exact (h ha hb (hx.trans (List.append_nil _).symm)).1

theorem append (hf : Delimited D f) (hg : Delimited E g) :
    Delimited (fun p : α × γ => D p.1 ∧ E p.2) (fun p => f p.1 ++ g p.2) := by
  intro a b ha hb x y h
  simp only [List.append_assoc] at h
  obtain ⟨h1, h⟩ := hf ha.1 hb.1 h
  obtain ⟨h2, h⟩ := hg ha.2 hb.2 h
  exact ⟨Prod.ext h1 h2, h⟩

/-- Lists that a member follows which is in none of them. -/
theorem terminated (z : β) : Delimited (fun s : List β => z ∉ s) (· ++ [z]) := by
  intro s
  induction s with
  | nil =>
    intro t _ ht x y h
    cases t with
    | nil => exact ⟨rfl, List.cons.inj h |>.2⟩
    | cons b t => exact absurd (List.mem_cons.2 (.inl (List.cons.inj h).1)) ht
  | cons a s ih =>
    intro t hs ht x y h
    cases t with
    | nil => exact absurd (List.mem_cons.2 (.inl (List.cons.inj h).1.symm)) hs
    | cons b t =>
      obtain ⟨hab, htail⟩ := List.cons.inj h
      obtain ⟨hst, hxy⟩ := ih (List.not_mem_of_not_mem_cons hs) (List.not_mem_of_not_mem_cons ht)
        htail
      exact ⟨by rw [hab, hst], hxy⟩

/-- Lists are delimited as soon as their length is known. -/
theorem flatMap (h : Delimited (fun _ => True) f) (n : Nat) :
    Delimited (fun l : List α => l.length = n) (·.flatMap f) := by
  induction n with
  | zero =>
    intro l m hl hm x y hxy
    cases List.eq_nil_of_length_eq_zero hl
    cases List.eq_nil_of_length_eq_zero hm
    exact ⟨rfl, hxy⟩
  | succ n ih =>
    intro l m hl hm x y hxy
    obtain ⟨a, l, rfl⟩ := List.exists_cons_of_length_eq_add_one hl
    obtain ⟨b, m, rfl⟩ := List.exists_cons_of_length_eq_add_one hm
    simp only [List.flatMap_cons, List.append_assoc] at hxy
    obtain ⟨hab, htail⟩ := h trivial trivial hxy
    obtain ⟨hlm, hrest⟩ := ih (Nat.succ.inj hl) (Nat.succ.inj hm) htail
    exact ⟨by rw [hab, hlm], hrest⟩

/-- The code of a list with its size before it. -/
theorem sized {size : Nat → List β} {N : Nat} (hsize : Delimited (· < N) size)
    (h : Delimited (fun _ => True) f) :
    Delimited (fun l : List α => l.length < N) (fun l => size l.length ++ l.flatMap f) := by
  intro l m hl hm x y hxy
  simp only [List.append_assoc] at hxy
  obtain ⟨hlength, hxy⟩ := hsize hl hm hxy
  exact h.flatMap m.length hlength rfl hxy

end Delimited

/-! ## Texts and sizes -/

namespace Text

/-- No character has the byte FF. -/
theorem ne_of_mem_encodeChar {c : Char} {b : UInt8} (h : b ∈ String.utf8EncodeChar c) :
    b ≠ 0xFF := by
  have hb : ∃ n, n < 0xFF ∧ b = UInt8.ofNat n := by
    simp only [String.utf8EncodeChar] at h
    split_ifs at h <;> simp only [List.mem_cons, List.not_mem_nil, or_false] at h
    · exact ⟨_, by omega, h⟩
    · rcases h with h | h <;> exact ⟨_, by omega, h⟩
    · rcases h with h | h | h <;> exact ⟨_, by omega, h⟩
    · rcases h with h | h | h | h <;> exact ⟨_, by omega, h⟩
  obtain ⟨n, hn, rfl⟩ := hb
  intro h
  have hmod := congrArg UInt8.toNat h
  rw [UInt8.toNat_ofNat', Nat.mod_eq_of_lt (by omega)] at hmod
  exact absurd hmod (by simp; omega)

theorem encode_injective : Function.Injective encode := by
  intro s t h
  have hsome : some s = some t := by rw [← decode?_encode s, h, decode?_encode]
  exact Option.some.inj hsome

theorem ne_of_mem_encode {s : String} {b : UInt8} (h : b ∈ encode s) : b ≠ 0xFF := by
  obtain ⟨c, _, hc⟩ := List.mem_flatMap.1 h
  exact ne_of_mem_encodeChar hc

end Text

namespace Digest

/-- A text ends at the first byte FF. -/
theorem delimited_textFeed : Delimited (fun _ => True) textFeed := by
  intro s t _ _ x y h
  have hend (s : String) : 0xFF ∉ Text.encode s := fun hs => Text.ne_of_mem_encode hs rfl
  obtain ⟨hst, hxy⟩ := Delimited.terminated 0xFF (hend s) (hend t) h
  exact ⟨Text.encode_injective hst, hxy⟩

theorem delimited_littleEndian (size : Nat) : Delimited (· < 256 ^ size) (littleEndian size) := by
  induction size with
  | zero =>
    intro n m hn hm x y h
    exact ⟨by omega, h⟩
  | succ size ih =>
    intro n m hn hm x y h
    have hn' : n / 256 < 256 ^ size := Nat.div_lt_of_lt_mul (by rwa [← Nat.pow_succ'])
    have hm' : m / 256 < 256 ^ size := Nat.div_lt_of_lt_mul (by rwa [← Nat.pow_succ'])
    simp only [littleEndian, List.cons_append, List.cons.injEq] at h
    obtain ⟨hlow, htail⟩ := h
    obtain ⟨hhigh, hrest⟩ := ih hn' hm' htail
    have hlow := congrArg UInt8.toNat hlow
    simp only [Nat.toUInt8_eq, UInt8.toNat_ofNat', Nat.mod_mod] at hlow
    exact ⟨by omega, hrest⟩

theorem delimited_sizeFeed : Delimited (· < 2 ^ 64) sizeFeed := delimited_littleEndian 8

theorem delimited_textsFeed : Delimited (fun l : List String => l.length < 2 ^ 64) textsFeed :=
  delimited_sizeFeed.sized delimited_textFeed

theorem delimited_tableFeed :
    Delimited (fun t : EnvTable => t.entries.length < 2 ^ 64) tableFeed := by
  intro t u ht hu x y h
  have hentry : Delimited (fun _ => True) fun e : String × String => textFeed e.1 ++ textFeed e.2 :=
    fun a b _ _ => delimited_textFeed.append delimited_textFeed ⟨trivial, trivial⟩
      ⟨trivial, trivial⟩
  obtain ⟨htu, hxy⟩ := delimited_sizeFeed.sized hentry ht hu h
  exact ⟨EnvTable.mk.injEq .. ▸ htu, hxy⟩

end Digest

open Digest

theorem Recipe.delimited_feed :
    Delimited (fun r : Recipe => r.env.entries.length < 2 ^ 64 ∧ r.steps.length < 2 ^ 64)
      Recipe.feed := by
  intro r q hr hq x y h
  simp only [feed, List.append_assoc] at h
  obtain ⟨hbase, huser⟩ := delimited_textFeed trivial trivial h
  obtain ⟨huser, henv⟩ := delimited_textFeed trivial trivial huser
  obtain ⟨henv, hsteps⟩ := delimited_tableFeed hr.1 hq.1 henv
  obtain ⟨hsteps, hxy⟩ := delimited_textsFeed hr.2 hq.2 hsteps
  refine ⟨?_, hxy⟩
  cases r
  simp_all

/-! ## Digests in hexadecimal digits -/

namespace Blake3

theorem hexByte_eq (b : UInt8) :
    hexByte b = [Nat.digitChar (b.toNat / 16), Nat.digitChar (b.toNat % 16)] := by
  have := b.toNat_lt
  rw [hexByte, Nat.toDigits_of_lt_base (by omega), Nat.toDigits_of_lt_base (by omega)]
  rfl

theorem exists_of_mem_hexDigest {input : Bytes} {c : Char} (h : c ∈ hexDigest input) :
    ∃ k : Fin 16, c = Nat.digitChar k := by
  obtain ⟨b, -, hmem⟩ := List.mem_flatMap.1 h
  have hb := b.toNat_lt
  rw [hexByte_eq] at hmem
  rcases List.mem_pair.1 hmem with rfl | rfl
  · exact ⟨⟨b.toNat / 16, by omega⟩, rfl⟩
  · exact ⟨⟨b.toNat % 16, by omega⟩, rfl⟩

theorem digitChar_inj : ∀ m < 16, ∀ n < 16, Nat.digitChar m = Nat.digitChar n → m = n := by
  decide

theorem delimited_hexByte : Delimited (fun _ => True) hexByte := by
  intro b c _ _ x y h
  simp only [hexByte_eq, List.cons_append, List.nil_append, List.cons.injEq] at h
  obtain ⟨hhigh, hlow, hxy⟩ := h
  have hb := b.toNat_lt
  have hc := c.toNat_lt
  have hhigh := digitChar_inj _ (by omega) _ (by omega) hhigh
  have hlow := digitChar_inj _ (by omega) _ (by omega) hlow
  exact ⟨UInt8.toNat_inj.1 (by omega), hxy⟩

theorem hexDigest_inj {x y : Bytes} : hexDigest x = hexDigest y ↔ hash x = hash y := by
  refine ⟨fun h => ?_, fun h => congrArg (·.flatMap hexByte) h⟩
  have hlength (bs : Bytes) : (bs.flatMap hexByte).length = 2 * bs.length := by
    simp [List.length_flatMap, hexByte_eq, Nat.mul_comm]
  have hxy : (hash x).length = (hash y).length := by
    have := congrArg List.length h
    simp only [hexDigest, hlength] at this
    omega
  exact (delimited_hexByte.flatMap _).inj hxy rfl h

end Blake3

/-- Recipes have streams of their own, and no stream is the start of another. So two recipes have
one fingerprint only if they are equal, or if their streams are different and the hash takes them to
the same digest. -/
theorem Recipe.feed_identifies (r q : Recipe)
    (hr : r.env.entries.length < 2 ^ 64 ∧ r.steps.length < 2 ^ 64)
    (hq : q.env.entries.length < 2 ^ 64 ∧ q.steps.length < 2 ^ 64) :
    (r.feed = q.feed ↔ r = q) ∧
      (r ≠ q → ¬ r.feed <+: q.feed ∧ ¬ q.feed <+: r.feed) ∧
      (r.fingerprint = q.fingerprint ↔
        r = q ∨ (r.feed ≠ q.feed ∧ Blake3.hash r.feed = Blake3.hash q.feed)) := by
  have hfeed : r.feed = q.feed ↔ r = q :=
    ⟨delimited_feed.inj hr hq, fun h => congrArg feed h⟩
  have hprint : r.fingerprint = q.fingerprint ↔ Blake3.hash r.feed = Blake3.hash q.feed := by
    rw [fingerprint, fingerprint, String.ofList_inj, Blake3.hexDigest_inj]
  refine ⟨hfeed, fun hne => ⟨fun h => hne ?_, fun h => hne ?_⟩, ?_⟩
  · exact delimited_feed.eq_of_prefix hr hq h
  · exact (delimited_feed.eq_of_prefix hq hr h).symm
  · rw [hprint, ← hfeed]
    by_cases h : r.feed = q.feed
    · simp [h]
    · simp [h]

/-- A variable and two more steps with the same texts are told apart by the sizes before them. -/
theorem Recipe.feed_identifies_moved :
    let r : Recipe := ⟨"a", "b", .ofList [("C", "d")], ["e"]⟩
    let q : Recipe := ⟨"a", "b", .empty, ["C", "d", "e"]⟩
    (r.env.entries.length < 2 ^ 64 ∧ r.steps.length < 2 ^ 64) ∧
      (q.env.entries.length < 2 ^ 64 ∧ q.steps.length < 2 ^ 64) ∧
      ¬ r.feed <+: q.feed ∧ ¬ q.feed <+: r.feed := by
  intro r q
  have hr : r.env.entries.length < 2 ^ 64 ∧ r.steps.length < 2 ^ 64 := by decide
  have hq : q.env.entries.length < 2 ^ 64 ∧ q.steps.length < 2 ^ 64 := by decide
  exact ⟨hr, hq, (feed_identifies r q hr hq).2.1 (by decide)⟩

end SandboxImage
