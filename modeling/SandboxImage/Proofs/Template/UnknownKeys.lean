import Mathlib.Logic.Relation
import SandboxImage.Proofs.Template.Decoding

/-!
# Keys that are not known

What becomes of a template when an entry with another key is added to one of its parts. Reading a
document goes on from what is read of each part inside it, so two documents that differ in one part
are read alike but for that part (`Replaced.hinge`): the induction is on the way from the root to
it. A part with one more entry fails (`Form.exists_error_of_added`), except that checks pass entries
over whose key is a scalar (`Form.fillEntries_added`).
-/

namespace SandboxImage.Template

open Yaml (Node Scalar)

variable {α β γ σ : Type}

/-! ## Parts inside parts -/

/-- What is filled in of a part. -/
def Part.Draft : Part → Type
  | .file => FileDraft
  | .image => ImageDraft
  | .capacity => Capacity
  | .verify => PlanDraft
  | .check => CheckDraft

/-- The form of a part. -/
def Part.form : (p : Part) → Form p.Draft
  | .file => fileForm
  | .image => imageForm
  | .capacity => capacityForm
  | .verify => planForm
  | .check => checkForm

@[simp]
theorem Part.form_part (p : Part) : p.form.part = p := by cases p <;> rfl

theorem Part.isOpen_iff {p : Part} : p.isOpen = true ↔ p = .check := by cases p <;> decide

/-- The part that stands under a key. -/
def Part.inner? : Part → String → Option Part
  | .file, "image" => some .image
  | .file, "capacity" => some .capacity
  | .file, "verify" => some .verify
  | .verify, "smoke" => some .check
  | _, _ => none

/-- A part with the value `v` of a key, and the same with `v'` in its place. -/
inductive Swapped (p : Part) (key : String) (v v' n n' : Node) : Prop where
  | entry (hk : k.target = .scalar s) (hkey : s.text = key)
      (h : n.target = .mapping (before ++ (k, v) :: after))
      (h' : n'.target = .mapping (before ++ (k, v') :: after))
  | value (hkey : p.keys[before.length]? = some key)
      (h : n.target = .sequence (before ++ v :: after))
      (h' : n'.target = .sequence (before ++ v' :: after))

/-- A part somewhere in which the part `inner` stands, and the same with `inner'` in its place. -/
inductive Replaced (p : Part) (inner inner' : Node) : Part → Node → Node → Prop where
  | here : Replaced p inner inner' p inner inner'
  | inside (hr : q.inner? key = some r) (h : Swapped q key v v' n n') :
      Replaced p inner inner' r v v' → Replaced p inner inner' q n n'
  | check (h : Swapped .verify "checks" v v' n n')
      (hv : v.target = .sequence (before ++ c :: after))
      (hv' : v'.target = .sequence (before ++ c' :: after)) :
      Replaced p inner inner' .check c c' → Replaced p inner inner' .verify n n'

/-! ## Readings that hinge on one part -/

/-- Two readings that are alike but for what is read at one place: they fail before that, or they go
on from it, in the same way. -/
def Hinge (a a' : Except Problem α) (b b' : Place → Except Problem β) : Prop :=
  (∃ e, a = .error e ∧ a' = .error e) ∨
    ∃ place, ∃ f : β → Except Problem α, a = b place >>= f ∧ a' = b' place >>= f

namespace Hinge

variable {a a' : Except Problem α} {b b' : Place → Except Problem β}
  {c c' : Place → Except Problem γ}

theorem refl (b b' : Place → Except Problem β) (place : Place) :
    Hinge (b place) (b' place) b b' :=
  .inr ⟨place, pure, (bind_pure _).symm, (bind_pure _).symm⟩

theorem bind (h : Hinge a a' c c') (f : α → Except Problem β) :
    Hinge (a >>= f) (a' >>= f) c c' := by
  rcases h with ⟨e, rfl, rfl⟩ | ⟨place, g, rfl, rfl⟩
  · exact .inl ⟨e, rfl, rfl⟩
  · exact .inr ⟨place, fun x => g x >>= f, bind_assoc .., bind_assoc ..⟩

theorem eq_of_eq (h : Hinge a a' b b') (hb : b = b') : a = a' := by
  rcases h with ⟨e, rfl, rfl⟩ | ⟨place, f, rfl, rfl⟩
  · rfl
  · rw [hb]

/-- Where what is read at the place fails, so does the whole. -/
theorem exists_error (h : Hinge a a' b b') (hb : ∀ place, ∃ e, b' place = .error e) :
    ∃ e, a' = .error e := by
  rcases h with ⟨e, -, rfl⟩ | ⟨place, f, -, rfl⟩
  · exact ⟨e, rfl⟩
  · obtain ⟨e, he⟩ := hb place
    exact ⟨e, by rw [he]; rfl⟩

end Hinge

namespace Form

variable (f : Form σ) {key : String} {v v' n n' : Node} {b b' : Place → Except Problem β}

/-- The entry of a known key that was not there before is filled in first. -/
theorem fillEntries_cons {k : Node} {s : Scalar} (hk : k.target = .scalar s)
    (hknown : s.text ∈ f.part.keys) {taken : List String} (hfresh : s.text ∉ taken) (place : Place)
    (rest : List (Node × Node)) (draft : σ) :
    f.fillEntries place taken ((k, v) :: rest) draft =
      f.fill s.text (entryPlace place k s.text) v draft >>=
        f.fillEntries place (s.text :: taken) rest := by
  rw [fillEntries]
  simp only [hk, hknown, hfresh, if_true, if_false]
  cases f.fill s.text (entryPlace place k s.text) v draft <;> rfl

theorem fillValues_cons (place : Place) (index : Nat) (mayEnd : Bool)
    (fields : List (String × Bool)) (rest : List Node) (draft : σ) :
    f.fillValues place index ((key, mayEnd) :: fields) (v :: rest) draft =
      f.fill key (.item index :: place) v draft >>= f.fillValues place (index + 1) fields rest := by
  rw [fillValues]
  cases f.fill key (.item index :: place) v draft <;> rfl

theorem hinge_fillEntries
    (hfill : ∀ place draft, Hinge (f.fill key place v draft) (f.fill key place v' draft) b b')
    (hknown : key ∈ f.part.keys) {k : Node} {s : Scalar} (hk : k.target = .scalar s)
    (hkey : s.text = key) (place : Place) (before after : List (Node × Node))
    (taken : List String) (draft : σ) :
    Hinge (f.fillEntries place taken (before ++ (k, v) :: after) draft)
      (f.fillEntries place taken (before ++ (k, v') :: after) draft) b b' := by
  induction before generalizing taken draft with
  | nil =>
    subst hkey
    by_cases hfresh : s.text ∈ taken
    · exact .inl ⟨⟨place, .repeatedKey s.text⟩, by simp [fillEntries, hk, hknown, hfresh],
        by simp [fillEntries, hk, hknown, hfresh]⟩
    · simp only [List.nil_append, f.fillEntries_cons hk hknown hfresh]
      exact (hfill _ draft).bind _
  | cons e before ih =>
    -- both documents have this entry, so they fail at it or go on from the same draft
    simp only [List.cons_append, fillEntries]
    split
    · split_ifs
      · exact .inl ⟨_, rfl, rfl⟩
      · split
        · exact ih _ _
        · exact .inl ⟨_, rfl, rfl⟩
      · exact ih _ _
      · exact .inl ⟨_, rfl, rfl⟩
    · exact .inl ⟨_, rfl, rfl⟩

theorem hinge_fillValues
    (hfill : ∀ place draft, Hinge (f.fill key place v draft) (f.fill key place v' draft) b b')
    (place : Place) (before after : List Node) (fields : List (String × Bool))
    (hkey : (fields.map Prod.fst)[before.length]? = some key) (index : Nat) (draft : σ) :
    Hinge (f.fillValues place index fields (before ++ v :: after) draft)
      (f.fillValues place index fields (before ++ v' :: after) draft) b b' := by
  induction before generalizing fields index draft with
  | nil =>
    match fields with
    | (key', mayEnd) :: fields =>
      obtain rfl : key' = key := by simpa using hkey
      simp only [List.nil_append, fillValues_cons]
      exact (hfill _ draft).bind _
  | cons x before ih =>
    match fields with
    | (key', mayEnd) :: fields =>
      simp only [List.cons_append, fillValues]
      split
      · exact ih fields hkey _ _
      · exact .inl ⟨_, rfl, rfl⟩

theorem hinge_read
    (hfill : ∀ place draft, Hinge (f.fill key place v draft) (f.fill key place v' draft) b b')
    (hknown : key ∈ f.part.keys) (h : Swapped f.part key v v' n n') (place : Place) :
    Hinge (f.read place n) (f.read place n') b b' := by
  cases h with
  | entry hk hkey h h' =>
    simp only [read, h, h']
    exact f.hinge_fillEntries hfill hknown hk hkey place _ _ _ _
  | value hkey h h' =>
    simp only [read, h, h']
    exact f.hinge_fillValues hfill place _ _ _ hkey _ _

/-! ## One entry more -/

variable {k : Node} {before after : List (Node × Node)}

/-- Wherever an entry with a key that is not known stands, a form is not filled in, unless it passes
scalar keys over. -/
theorem exists_error_of_added (hunknown : ∀ s, k.target = .scalar s → s.text ∉ f.part.keys)
    (h : f.part.isOpen = false ∨ ∀ s, k.target ≠ .scalar s) (place : Place) (taken : List String)
    (draft : σ) : ∃ e, f.fillEntries place taken (before ++ (k, v) :: after) draft = .error e := by
  induction before generalizing taken draft with
  | nil =>
    simp only [List.nil_append, fillEntries]
    split
    next s hs =>
      have hstrict : f.part.isOpen = false := h.resolve_right fun h => h s hs
      simp [hunknown s hs, hstrict]
    · exact ⟨_, rfl⟩
  | cons e before ih =>
    simp only [List.cons_append, fillEntries]
    split
    · split_ifs
      · exact ⟨_, rfl⟩
      · split
        · exact ih _ _
        · exact ⟨_, rfl⟩
      · exact ih _ _
      · exact ⟨_, rfl⟩
    · exact ⟨_, rfl⟩

/-- A form that passes keys over is filled in as if the entry were not there. -/
theorem fillEntries_added (hopen : f.part.isOpen = true) {s : Scalar} (hk : k.target = .scalar s)
    (hunknown : s.text ∉ f.part.keys) (place : Place) (taken : List String) (draft : σ) :
    f.fillEntries place taken (before ++ (k, v) :: after) draft =
      f.fillEntries place taken (before ++ after) draft := by
  induction before generalizing taken draft with
  | nil => simp [fillEntries, hk, hunknown, hopen]
  | cons e before ih => simp only [List.cons_append, fillEntries, ih]

end Form

/-! ## From a part to the root -/

section

variable {p q r : Part} {key : String} {v v' n n' inner inner' : Node}
  {b b' : Place → Except Problem β}

/-- A node at which a value is given, whatever it is. -/
theorem isGiven_of_target (h : ∀ s, n.target ≠ .scalar s) (place : Place) :
    isGiven place n = .ok true := by
  unfold isGiven
  split
  · next heq => exact absurd heq (h _)
  · next heq => exact absurd heq (h _)
  · rfl

theorem Part.mem_keys_of_inner? (h : q.inner? key = some r) : key ∈ q.keys := by
  unfold Part.inner? at h
  split at h <;> simp_all [Part.keys, Part.fields]

theorem hinge_readItems {read : Place → Node → Except Problem α} {c c' : Node}
    (hread : ∀ place, Hinge (read place c) (read place c') b b') (place : Place)
    (before after : List Node) (index : Nat) :
    Hinge (readItems read place index (before ++ c :: after))
      (readItems read place index (before ++ c' :: after)) b b' := by
  induction before generalizing index with
  | nil => exact (hread _).bind _
  | cons x before ih =>
    simp only [List.cons_append, readItems]
    cases read (.item index :: place) x with
    | error e => exact .inl ⟨e, rfl, rfl⟩
    | ok a => exact (ih _).bind _

theorem hinge_readCheck
    (h : ∀ place, Hinge (checkForm.read place n) (checkForm.read place n') b b') (place : Place) :
    Hinge (readCheck place n) (readCheck place n') b b' :=
  (h place).bind _

/-- What is filled in for a key hinges on the part that stands under it. -/
theorem Part.hinge_fill (hr : q.inner? key = some r) (hv : ∀ s, v.target ≠ .scalar s)
    (hv' : ∀ s, v'.target ≠ .scalar s)
    (h : ∀ place, Hinge (r.form.read place v) (r.form.read place v') b b') (place : Place)
    (draft : q.Draft) :
    Hinge (q.form.fill key place v draft) (q.form.fill key place v' draft) b b' := by
  unfold Part.inner? at hr
  split at hr
  · cases hr
    exact ((h place).bind _).bind _
  · cases hr
    exact (h place).bind _
  · cases hr
    exact ((h place).bind _).bind _
  · cases hr
    have hsmoke :
        Hinge (readOptional readCheck place v) (readOptional readCheck place v') b b' := by
      -- a check is never taken for a missing value, because it is no scalar
      simp only [readOptional, isGiven_of_target hv, isGiven_of_target hv', ok_bind, if_true,
        map_eq_pure_bind]
      exact (hinge_readCheck h place).bind _
    exact hsmoke.bind _
  · cases hr

theorem Swapped.not_scalar (h : Swapped p key v v' n n') :
    (∀ s, n.target ≠ .scalar s) ∧ ∀ s, n'.target ≠ .scalar s := by
  cases h with
  | entry _ _ h h' => simp [h, h']
  | value _ h h' => simp [h, h']

namespace Replaced

theorem not_scalar (h : Replaced p inner inner' q n n') (hinner : ∀ s, inner.target ≠ .scalar s)
    (hinner' : ∀ s, inner'.target ≠ .scalar s) :
    (∀ s, n.target ≠ .scalar s) ∧ ∀ s, n'.target ≠ .scalar s := by
  cases h with
  | here => exact ⟨hinner, hinner'⟩
  | inside _ h => exact h.not_scalar
  | check h => exact h.not_scalar

/-- What is read of a part hinges on what is read of each part inside it. -/
theorem hinge (h : Replaced p inner inner' q n n') (hinner : ∀ s, inner.target ≠ .scalar s)
    (hinner' : ∀ s, inner'.target ≠ .scalar s) (place : Place) :
    Hinge (q.form.read place n) (q.form.read place n') (p.form.read · inner)
      (p.form.read · inner') := by
  induction h generalizing place with
  | here => exact .refl (p.form.read · inner) (p.form.read · inner') place
  | inside hr h hinside ih =>
    obtain ⟨hv, hv'⟩ := hinside.not_scalar hinner hinner'
    exact Form.hinge_read _ (Part.hinge_fill hr hv hv' ih)
      (by simpa using Part.mem_keys_of_inner? hr) (by simpa using h) place
  | check h hv hv' _ ih =>
    refine Form.hinge_read planForm (fun place draft => ?_) (by decide) h place
    simp only [planForm, readList, hv, hv']
    exact (hinge_readItems (hinge_readCheck ih) place _ _ 0).bind _

end Replaced
end

/-! ## Documents with an entry more -/

/-- The entry stands in a part somewhere in the second document, and not in the first. -/
inductive Adds (p : Part) (k v root root' : Node) : Prop where
  | intro {inner inner' : Node} (h : Replaced p inner inner' .file root root')
      (hwithout : inner.target = .mapping (before ++ after))
      (hwith : inner'.target = .mapping (before ++ (k, v) :: after))

section

variable {p : Part} {k v root root' : Node} (hunknown : ∀ s, k.target = .scalar s → s.text ∉ p.keys)

theorem hinge_ofNode {b b' : Place → Except Problem β}
    (h : Hinge (fileForm.read [] root) (fileForm.read [] root') b b') :
    Hinge (Content.ofNode root) (Content.ofNode root') b b' :=
  h.bind _

include hunknown

theorem Adds.exists_error (h : Adds p k v root root')
    (hrefused : p ≠ .check ∨ ∀ s, k.target ≠ .scalar s) :
    ∃ e, Content.ofNode root' = .error e := by
  obtain ⟨h, hwithout, hwith⟩ := h
  have hhinge := hinge_ofNode (h.hinge (by simp [hwithout]) (by simp [hwith]) [])
  apply hhinge.exists_error
  intro place
  simp only [Form.read, hwith]
  apply Form.exists_error_of_added _ (by simpa using hunknown)
  exact hrefused.imp_left fun hp => by simpa [← Part.isOpen_iff] using hp

theorem Adds.ofNode_eq (h : Adds p k v root root') (hp : p = .check) {s : Scalar}
    (hk : k.target = .scalar s) : Content.ofNode root' = Content.ofNode root := by
  subst hp
  obtain ⟨h, hwithout, hwith⟩ := h
  have hhinge := hinge_ofNode (h.hinge (by simp [hwithout]) (by simp [hwith]) [])
  refine (hhinge.eq_of_eq (funext fun place => ?_)).symm
  simp only [Form.read, hwith, hwithout]
  exact (Form.fillEntries_added _ rfl hk (hunknown s hk) _ _ _).symm

theorem ofNode_eq_of_adds (h : Relation.TransGen (Adds p k v) root root') (hp : p = .check)
    {s : Scalar} (hk : k.target = .scalar s) : Content.ofNode root' = Content.ofNode root := by
  induction h with
  | single h => exact h.ofNode_eq hunknown hp hk
  | tail _ h ih => exact (h.ofNode_eq hunknown hp hk).trans ih

/-- An entry with an unknown key is added to a file that is a template, at a part or at several of
one kind: one that others refer to stands in several places. The file is refused, whatever the value
is, but for a scalar key in a check: the file is then the same template as before. -/
theorem load_of_unknownKey {files files' : Files} {path : Files.Path} {place : Files.Place}
    {bytes bytes' : Bytes} {t : Template} (hfile : files.find path = .ok ⟨place, .file bytes⟩)
    (hfile' : files'.find path = .ok ⟨place, .file bytes'⟩)
    (hdocument : (Text.decode? bytes).bind Yaml.document? = some root)
    (hdocument' : (Text.decode? bytes').bind Yaml.document? = some root')
    (hload : load files path = .ok t) (hadded : Relation.TransGen (Adds p k v) root root') :
    (p ≠ .check ∨ (∀ s, k.target ≠ .scalar s) →
      ∃ fault, load files' path = .error (.document fault)) ∧
    (p = .check ∧ (∃ s, k.target = .scalar s) → load files' path = .ok t) := by
  constructor
  · -- one place is enough, so the last one decides
    intro hrefused
    obtain ⟨_, -, hlast⟩ := Relation.TransGen.tail'_iff.1 hadded
    obtain ⟨e, he⟩ := hlast.exists_error hunknown hrefused
    exact load_of_ofNode_error hfile' hdocument' he
  · rintro ⟨hp, s, hs⟩
    have hsame := ofNode_eq_of_adds hunknown hadded hp hs
    cases hcontent : Content.ofNode root with
    | error e =>
      obtain ⟨fault, hfault⟩ := load_of_ofNode_error hfile hdocument hcontent
      rw [hfault] at hload
      cases hload
    | ok content =>
      rw [hcontent] at hsame
      rw [load_of_ofNode hfile' hdocument' hsame, ← load_of_ofNode hfile hdocument hcontent, hload]

end

/-- A template file with these entries in its capacity and in its check. -/
def sample (capacity check : String) : String :=
  "image: \x7bbase: b, steps: []\x7d\n" ++
  "capacity: \x7b" ++ capacity ++ "\x7d\n" ++
  "verify: \x7bchecks: [\x7blabel: l, command: c" ++ check ++ "\x7d]\x7d\n"

/-- The document that it is. -/
def sampleRoot (capacity check : List (Node × Node)) : Node :=
  .mapping
    [(bare "image", .mapping [(bare "base", bare "b"), (bare "steps", .sequence [])]),
     (bare "capacity", .mapping capacity),
     (bare "verify", .mapping [(bare "checks", .sequence
       [.mapping ([(bare "label", bare "l"), (bare "command", bare "c")] ++ check)])])]

/-- Its tokens. -/
def sampleTokens (capacity check : List Yaml.Token) : List Yaml.Token :=
  [.blockMappingStart, .key, .scalar true "image", .value, .flowMappingStart, .key,
    .scalar true "base", .value, .scalar true "b", .flowEntry, .key, .scalar true "steps", .value,
    .flowSequenceStart, .flowSequenceEnd, .flowMappingEnd, .key, .scalar true "capacity", .value,
    .flowMappingStart] ++ capacity ++
  [.flowMappingEnd, .key, .scalar true "verify", .value, .flowMappingStart, .key,
    .scalar true "checks", .value, .flowSequenceStart, .flowMappingStart, .key,
    .scalar true "label", .value, .scalar true "l", .flowEntry, .key, .scalar true "command",
    .value, .scalar true "c"] ++ check ++
  [.flowMappingEnd, .flowSequenceEnd, .flowMappingEnd, .blockEnd, .streamEnd]

/-- The template that it is in a directory `Work`. -/
def sampleTemplate : Template :=
  ⟨"work", ⟨"b", "root", .empty, []⟩, ⟨2, 2048⟩, ⟨.empty, [⟨"l", "c"⟩], none⟩⟩

/-- The file `t.yml` in the directory `Work`. -/
def sampleFiles (text : String) : Files :=
  ⟨fun _ => .ok ⟨[Text.encode "t.yml", Text.encode "Work"], .file (Text.encode text)⟩⟩

theorem document_sample : (Text.decode? (Text.encode (sample "" ""))).bind Yaml.document? =
    some (sampleRoot [] []) := by
  have htokens : Yaml.tokens? (sample "" "") = some (sampleTokens [] []) := by decide +kernel
  rw [document_of_tokens htokens]
  rfl

theorem load_sample : load (sampleFiles (sample "" "")) (Text.encode "t.yml") =
    .ok sampleTemplate := by
  rw [load_of_ofNode rfl document_sample rfl]
  decide +kernel

theorem adds_capacity (k v : Node) :
    Adds .capacity k v (sampleRoot [] []) (sampleRoot [(k, v)] []) := by
  have h : (sampleRoot [] []).target = .mapping
      ([(bare "image", .mapping [(bare "base", bare "b"), (bare "steps", .sequence [])])] ++
        (bare "capacity", .mapping []) :: _) := rfl
  have hwithout : (Node.mapping []).target = .mapping ([] ++ []) := rfl
  exact .intro (.inside rfl (.entry rfl rfl h rfl) .here) hwithout rfl

theorem adds_check (k v : Node) :
    Adds .check k v (sampleRoot [] []) (sampleRoot [] [(k, v)]) := by
  have h : (sampleRoot [] []).target = .mapping
      ([(bare "image", .mapping [(bare "base", bare "b"), (bare "steps", .sequence [])]),
        (bare "capacity", .mapping [])] ++ (bare "verify", _) :: []) := rfl
  have hplan (checks : Node) : (Node.mapping [(bare "checks", checks)]).target =
      .mapping ([] ++ (bare "checks", checks) :: []) := rfl
  have hchecks (check : Node) : (Node.sequence [check]).target = .sequence ([] ++ check :: []) :=
    rfl
  have hwithout : (Node.mapping [(bare "label", bare "l"), (bare "command", bare "c")]).target =
      .mapping ([(bare "label", bare "l"), (bare "command", bare "c")] ++ []) := rfl
  exact .intro (.inside rfl (.entry rfl rfl h rfl)
    (.check (.entry rfl rfl (hplan _) (hplan _)) (hchecks _) (hchecks _) .here)) hwithout rfl

theorem load_of_unknownKey_gpus :
    let added := Adds .capacity (bare "gpus") (bare "1") (sampleRoot [] [])
      (sampleRoot [(bare "gpus", bare "1")] [])
    added ∧ ∃ fault, load (sampleFiles (sample "gpus: 1" "")) (Text.encode "t.yml") =
      .error (.document fault) := by
  intro added
  have hadded : added := adds_capacity _ _
  have htokens : Yaml.tokens? (sample "gpus: 1" "") = some (sampleTokens
      [.key, .scalar true "gpus", .value, .scalar true "1"] []) := by decide +kernel
  have hdocument : (Text.decode? (Text.encode (sample "gpus: 1" ""))).bind Yaml.document? =
      some (sampleRoot [(bare "gpus", bare "1")] []) := by
    rw [document_of_tokens htokens]
    rfl
  have hunknown : ∀ s, (bare "gpus").target = .scalar s → s.text ∉ Part.capacity.keys := by
    rintro s ⟨⟩
    decide
  exact ⟨hadded, (load_of_unknownKey hunknown rfl rfl document_sample hdocument load_sample
    (.single hadded)).1 (.inl (by decide))⟩

/-- A check takes no time limit, and does not say so. -/
theorem load_passes_over_timeout :
    let text := sample "" ", timeout: 5"
    let root := sampleRoot [] [(bare "timeout", bare "5")]
    Adds .check (bare "timeout") (bare "5") (sampleRoot [] []) root ∧
      "timeout" ∉ Part.check.keys ∧
      (Text.decode? (Text.encode text)).bind Yaml.document? = some root ∧
      load (sampleFiles (sample "" "")) (Text.encode "t.yml") = .ok sampleTemplate ∧
      load (sampleFiles text) (Text.encode "t.yml") = .ok sampleTemplate := by
  intro text root
  have htokens : Yaml.tokens? text = some (sampleTokens []
      [.flowEntry, .key, .scalar true "timeout", .value, .scalar true "5"]) := by decide +kernel
  have hdocument : (Text.decode? (Text.encode text)).bind Yaml.document? = some root := by
    rw [document_of_tokens htokens]
    rfl
  refine ⟨adds_check _ _, by decide, hdocument, load_sample, ?_⟩
  rw [load_of_ofNode rfl hdocument rfl]
  decide +kernel

end SandboxImage.Template
