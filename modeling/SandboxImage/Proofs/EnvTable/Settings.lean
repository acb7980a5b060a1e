import Mathlib.Data.List.TakeWhile
import SandboxImage.Proofs.EnvTable.Lookup
import SandboxImage.Proofs.Podman.Starts
import SandboxImage.Proofs.Template.Decoding
import SandboxImage.Proofs.Validation.Plans

/-!
# Environments as settings

A setting is a text `NAME=value`. What it sets is told by its first equals sign (`Template.Sets`),
so a table is found again in the settings of its variables as long as no name holds one; in any list
of settings the last one of a name counts. Podman is given the variables of an instance in the same
form, and no name that passes the check holds an equals sign: reading the operands of its options
back gives the environment of the plan. All three are `Template.settings_agree`.
-/

namespace SandboxImage

/-! ## The options of a run -/

namespace Podman

theorem operandsOf_settings (env : EnvTable) :
    operandsOf "--env" (Invocation.settings env) = env.entries.map fun e => e.1 ++ "=" ++ e.2 := by
  unfold Invocation.settings
  induction env.entries with
  | nil => rfl
  | cons e rest ih => simp [operandsOf, ih]

theorem Connection.runArguments_eq (c : Connection) (name : String) (env : EnvTable)
    (capacity : Capacity) (i : String) : ∃ options,
    c.runArguments name env capacity i = (c.url.elim [] fun url => ["--url", url]) ++
      "run" :: (options ++ [name, "sleep", "infinity"]) ∧
    operandsOf "--env" options = env.entries.map fun e => e.1 ++ "=" ++ e.2 := by
  let others := ["--creds", c.credential.exposed, "--detach", "--name", i, "--label",
    nameLabel ++ "=" ++ name, "--cpus", toString capacity.cpus.toNat, "--memory",
    Invocation.memory capacity]
  refine ⟨others ++ Invocation.settings env, rfl, ?_⟩
  simp [others, operandsOf, operandsOf_settings]

theorem Connection.started_verify (c : Connection) (name : String) {p : Plan} (capacity : Capacity)
    (observer : Observer) (m : Machine) (hp : p.violation? = none) : ∃ first rest,
    started (Verifier.verify c.service name p capacity observer m).trace = first :: rest ∧
      first.arguments = c.runArguments name p.env capacity (m.nextInstance name) := by
  have hstarts := (c.asks_acquire m name p.env capacity).starts
  cases ha : (c.service.acquire name p.env capacity m).answer with
  | error e =>
    rw [Verifier.verify_of_refused hp ha, started_cons]
    exact ⟨_, _, hstarts, rfl⟩
  | ok i =>
    rw [Verifier.verify_of_granted hp ha, started_cons, started_append]
    exact ⟨_, _, congrArg (· ++ _) hstarts, rfl⟩

end Podman

/-! ## Settings -/

namespace Template

open Yaml (Node)

/-- What a text sets: a variable to a value, or one without a value if there is no equals sign. -/
inductive Sets (text name value : String) : Prop
  | assigned : '=' ∉ name.toList → text = name ++ "=" ++ value → Sets text name value
  | bare : '=' ∉ text.toList → name = text → value = "" → Sets text name value

theorem splitSetting_of_not_mem {text : String} (h : '=' ∉ text.toList) :
    splitSetting text = (text, "") := by
  have hall : ∀ c ∈ text.toList, (c != '=') = true := fun c hc => by
    simpa using ne_of_mem_of_not_mem hc h
  simp [splitSetting, List.takeWhile_eq_self_iff.2 hall, List.dropWhile_eq_nil_iff.2 hall]

theorem splitSetting_eq_iff {text name value : String} :
    splitSetting text = (name, value) ↔ Sets text name value := by
  constructor
  · intro h
    by_cases hmem : '=' ∈ text.toList
    · obtain ⟨front, rest, htext, hfront⟩ := List.eq_append_cons_of_mem hmem
      have hsetting : text = String.ofList front ++ "=" ++ String.ofList rest := by
        rw [← String.toList_inj, htext]
        simp
      have hname : '=' ∉ (String.ofList front).toList := by rwa [String.toList_ofList]
      rw [hsetting, splitSetting_append hname] at h
      cases h
      exact .assigned hname hsetting
    · rw [splitSetting_of_not_mem hmem] at h
      cases h
      exact .bare hmem rfl rfl
  · rintro (⟨hname, rfl⟩ | ⟨htext, rfl, rfl⟩)
    · exact splitSetting_append hname value
    · exact splitSetting_of_not_mem htext

/-- In the table of a list of texts each name has the value that the last text sets it to. -/
theorem mem_ofList_splitSetting_iff {texts : List String} {name value : String} :
    (name, value) ∈ (EnvTable.ofList (texts.map splitSetting)).entries ↔
      ∃ before text after, texts = before ++ text :: after ∧ Sets text name value ∧
        ∀ later ∈ after, ∀ v, ¬ Sets later name v := by
  have hlater (later : String) :
      (∀ v, ¬ Sets later name v) ↔ (splitSetting later).1 ≠ name := by
    simp only [← splitSetting_eq_iff]
    exact ⟨fun h heq => h _ (Prod.ext heq rfl), fun h v heq => h (congrArg Prod.fst heq)⟩
  rw [EnvTable.mem_ofList_iff]
  constructor
  · rintro ⟨before, after, htexts, hafter⟩
    obtain ⟨before, rest, rfl, rfl, hrest⟩ := List.map_eq_append_iff.1 htexts
    obtain ⟨text, after, rfl, htext, rfl⟩ := List.map_eq_cons_iff.1 hrest
    refine ⟨before, text, after, rfl, splitSetting_eq_iff.1 htext, fun later hmem => ?_⟩
    exact (hlater later).2 (hafter _ (List.mem_map_of_mem hmem))
  · rintro ⟨before, text, after, rfl, htext, hafter⟩
    refine ⟨before.map splitSetting, after.map splitSetting, ?_, ?_⟩
    · rw [List.map_append, List.map_cons, splitSetting_eq_iff.2 htext]
    · rintro _ hmem
      obtain ⟨later, hlater', rfl⟩ := List.mem_map.1 hmem
      exact (hlater later).1 (hafter later hlater')

/-- The node is a mapping of these variables in their order. -/
def IsMapping (n : Node) (settings : List (String × String)) : Prop :=
  ∃ entries, n.target = .mapping entries ∧
    List.Forall₂ (fun e s => IsText e.1 s.1 ∧ IsText e.2 s.2) entries settings

theorem equals_not_mem_of_isName {name : String} (h : IsName name) : '=' ∉ name.toList :=
  fun hmem => absurd (continuesName_of_mem (isVariableName_iff.2 h) hmem) (by decide)

/-- The forms of an environment agree. A table is read from the list of its settings as from the
mapping of its variables, in whichever order they stand, if no name holds an equals sign. A list of
any texts is read as the table in which each name has the value of the last text that sets it. And
of a plan that is run, the operands of the option `--env` are a list that is read as its
environment, with each name once. -/
theorem settings_agree :
    (∀ (t : EnvTable) (settings : List (String × String)), settings.Perm t.entries →
      (∀ s ∈ settings, '=' ∉ s.1.toList) → ∀ (place : Place) (list mapping : Node),
      IsList IsText list (settings.map fun s => s.1 ++ "=" ++ s.2) → IsMapping mapping settings →
        readEnv place list = .ok t ∧ readEnv place mapping = .ok t) ∧
    (∀ (texts : List String) (place : Place) (n : Node), IsList IsText n texts →
      ∃ t, readEnv place n = .ok t ∧ ∀ name value, (name, value) ∈ t.entries ↔
        ∃ before text after, texts = before ++ text :: after ∧ Sets text name value ∧
          ∀ later ∈ after, ∀ v, ¬ Sets later name v) ∧
    ∀ (c : Podman.Connection) (name : String) (p : Plan) (capacity : Capacity)
      (observer : Observer) (m : Podman.Machine), p.violation? = none →
      ∃ first rest options,
        started (Verifier.verify c.service name p capacity observer m).trace = first :: rest ∧
        first.arguments = (c.url.elim [] fun url => ["--url", url]) ++
          "run" :: (options ++ [name, "sleep", "infinity"]) ∧
        let operands := Podman.operandsOf "--env" options
        (operands.map fun o => (splitSetting o).1).Nodup ∧
          ∀ (place : Place) (n : Node), IsList IsText n operands → readEnv place n = .ok p.env := by
  refine ⟨?_, ?_, ?_⟩
  · rintro t settings hperm hnames place list mapping ⟨items, hitems, hlist⟩
      ⟨entries, hentries, hmapping⟩
    exact ⟨readEnv_of_laysEnv
        (.list hperm hnames ⟨items, hitems, List.forall₂_map_right_iff.1 hlist⟩) place,
      readEnv_of_laysEnv (.mapping hentries hperm hmapping) place⟩
  · intro texts place n h
    exact ⟨_, readEnv_of_isList h place, fun _ _ => mem_ofList_splitSetting_iff⟩
  · intro c name p capacity observer m hp
    obtain ⟨first, rest, hstarts, harguments⟩ :=
      c.started_verify name capacity observer m hp
    obtain ⟨options, hoptions, hoperands⟩ :=
      c.runArguments_eq name p.env capacity (m.nextInstance name)
    have hnames : ∀ e ∈ p.env.entries, '=' ∉ e.1.toList := fun e he =>
      equals_not_mem_of_isName ((Plan.violation?_eq_none_iff.1 hp).env e he).name
    have hsplit := map_splitSetting hnames
    refine ⟨first, rest, options, hstarts, harguments.trans hoptions, ?_, fun place n h => ?_⟩
    · have hmap := congrArg (List.map Prod.fst) hsplit
      rw [List.map_map] at hmap
      rw [hoperands]
      exact hmap ▸ List.pairwise_map.2 (p.env.ascending.imp String.ne_of_lt)
    · rw [hoperands] at h
      rw [readEnv_of_isList h, hsplit, EnvTable.ofList_of_perm (.refl _)]

/-- A value with an equals sign and an empty one, from both forms in the other order and from the
start of an instance; and a list that sets one name three times, at last to nothing. -/
theorem settings_agree_crooked :
    let t : EnvTable := ⟨[("A", "x=y"), ("B", "")], by decide⟩
    let quoted (text : String) : Node := .scalar ⟨text, false, none⟩
    let p : Plan := ⟨t, [⟨"env", "env"⟩], none⟩
    let c : Podman.Connection := ⟨none, ⟨"robot", "hunter2"⟩⟩
    let m : Podman.Machine :=
      { script := fun _ => {}, clock := fun _ => 5, process := 7, scratch := "/tmp" }
    readEnv [] (.sequence [quoted "B=", quoted "A=x=y"]) = .ok t ∧
      readEnv [] (.mapping [(quoted "B", quoted ""), (quoted "A", quoted "x=y")]) = .ok t ∧
      (∃ t', readEnv [] (.sequence [quoted "A=1", quoted "A=2", quoted "A"]) = .ok t' ∧
        ("A", "") ∈ t'.entries) ∧
      p.violation? = none ∧ ∃ first rest options,
        started (Verifier.verify c.service "-e" p {} .calm m).trace = first :: rest ∧
        first.arguments = "run" :: (options ++ ["-e", "sleep", "infinity"]) ∧
        ∀ (place : Place) (n : Node), IsList IsText n (Podman.operandsOf "--env" options) →
          readEnv place n = .ok t := by
  intro t quoted p c m
  have hquoted (text : String) : IsText (quoted text) text := ⟨_, rfl, rfl⟩
  have hp : p.violation? = none := by decide
  have hlist : IsList IsText (.sequence [quoted "B=", quoted "A=x=y"]) ["B=", "A=x=y"] :=
    ⟨_, rfl, .cons (hquoted _) (.cons (hquoted _) .nil)⟩
  have hmapping : IsMapping (.mapping [(quoted "B", quoted ""), (quoted "A", quoted "x=y")])
      [("B", ""), ("A", "x=y")] :=
    ⟨_, rfl, .cons ⟨hquoted _, hquoted _⟩ (.cons ⟨hquoted _, hquoted _⟩ .nil)⟩
  have hthrice : IsList IsText (.sequence [quoted "A=1", quoted "A=2", quoted "A"])
      ["A=1", "A=2", "A"] :=
    ⟨_, rfl, .cons (hquoted _) (.cons (hquoted _) (.cons (hquoted _) .nil))⟩
  have hbare : Sets "A" "A" "" := .bare (by decide) rfl rfl
  obtain ⟨hforms, hlast, hrun⟩ := settings_agree
  obtain ⟨hfromList, hfromMapping⟩ :=
    hforms t [("B", ""), ("A", "x=y")] (.swap ..) (by decide) [] _ _ hlist hmapping
  obtain ⟨t', ht', hentries⟩ := hlast _ [] _ hthrice
  obtain ⟨first, rest, options, hstarts, harguments, -, hread⟩ := hrun c "-e" p {} .calm m hp
  exact ⟨hfromList, hfromMapping,
    ⟨t', ht', (hentries _ _).2 ⟨["A=1", "A=2"], "A", [], rfl, hbare, List.forall_mem_nil _⟩⟩, hp,
    first, rest, options, hstarts, harguments, hread⟩

end Template
end SandboxImage
