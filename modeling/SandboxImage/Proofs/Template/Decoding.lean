import SandboxImage.Template.Location
import SandboxImage.Proofs.EnvTable.Order
import SandboxImage.Proofs.Template.Layout
import SandboxImage.Proofs.Text.Utf8

/-!
# Documents that lay out a template

Every layout of a template is read as that template (`load_of_layout`): the keys of its mappings may
stand in any order, an environment may be a mapping or a list of settings, and what is there by
default may be left out. For each part there are its fields and the lemma that reads it from them.
-/

namespace SandboxImage.Template

open Yaml (Node)

/-! ## Environments -/

/-- The node is an environment: a mapping of the variables, or a list of settings, in any order. No
name in a list of settings holds an equals sign. -/
inductive LaysEnv (t : EnvTable) (n : Node) : Prop where
  | mapping (h : n.target = .mapping entries) (hperm : settings.Perm t.entries)
      (hlays : List.Forall₂ (fun e s => IsText e.1 s.1 ∧ IsText e.2 s.2) entries settings)
  | list (hperm : settings.Perm t.entries) (hnames : ∀ s ∈ settings, '=' ∉ s.1.toList)
      (hlays : IsList (fun item s => IsText item (s.1 ++ "=" ++ s.2)) n settings)

/-- A name without an equals sign ends where the first one stands. -/
theorem splitSetting_append {name : String} (h : '=' ∉ name.toList) (value : String) :
    splitSetting (name ++ "=" ++ value) = (name, value) := by
  have hname : ∀ c ∈ name.toList, (c != '=') = true := by
    intro c hc
    simpa using fun heq : c = '=' => h (heq ▸ hc)
  have hlist : (name ++ "=" ++ value).toList = name.toList ++ '=' :: value.toList := by simp
  simp only [splitSetting, hlist, List.takeWhile_append_of_pos hname,
    List.dropWhile_append_of_pos hname]
  simp

theorem map_splitSetting {settings : List (String × String)}
    (hnames : ∀ s ∈ settings, '=' ∉ s.1.toList) :
    (settings.map fun s => s.1 ++ "=" ++ s.2).map splitSetting = settings := by
  rw [List.map_map]
  exact (List.map_congr_left fun s hs => splitSetting_append (hnames s hs) s.2).trans
    (List.map_id settings)

theorem texts_of_entries {entries : List (Node × Node)} {settings : List (String × String)}
    (h : List.Forall₂ (fun e s => IsText e.1 s.1 ∧ IsText e.2 s.2) entries settings) :
    entries.mapM textEntry? = some settings := by
  induction h with
  | nil => rfl
  | @cons e s _ _ he _ ih =>
    have hentry : textEntry? e = some s := by
      unfold textEntry?
      simp [textValue?_of_isText he.1, textValue?_of_isText he.2]
    simp [hentry, ih]

theorem texts_of_items {items : List Node} {texts : List String}
    (h : List.Forall₂ IsText items texts) : items.mapM textValue? = some texts := by
  induction h with
  | nil => rfl
  | cons hitem _ ih => simp [textValue?_of_isText hitem, ih]

theorem readEnv_of_isList {n : Node} {texts : List String} (h : IsList IsText n texts)
    (place : Place) : readEnv place n = .ok (.ofList (texts.map splitSetting)) := by
  obtain ⟨items, hitems, hlays⟩ := h
  simp [readEnv, settings?, hitems, texts_of_items hlays]

theorem readEnv_of_laysEnv {t : EnvTable} {n : Node} (h : LaysEnv t n) (place : Place) :
    readEnv place n = .ok t := by
  cases h with
  | mapping h hperm hlays =>
    simp [readEnv, settings?, h, texts_of_entries hlays, EnvTable.ofList_of_perm hperm]
  | @list settings hperm hnames hlays =>
    obtain ⟨items, hitems, hlays⟩ := hlays
    have htexts : IsList IsText n (settings.map fun s => s.1 ++ "=" ++ s.2) :=
      ⟨items, hitems, List.forall₂_map_right_iff.2 hlays⟩
    rw [readEnv_of_isList htexts, map_splitSetting hnames, EnvTable.ofList_of_perm hperm]

/-! ## Parts -/

/-- The fields of an image. -/
def recipeFields (r : Recipe) : List Field :=
  [⟨"base", (IsText · r.base), False⟩, ⟨"user", (IsText · r.user), r.user = "root"⟩,
   ⟨"env", LaysEnv r.env, r.env = .empty⟩, ⟨"steps", (IsList IsText · r.steps), False⟩]

/-- The fields of a capacity. -/
def capacityFields (c : Capacity) : List Field :=
  [⟨"cpus", (IsNumber · c.cpus.toNat), c.cpus = 2⟩,
   ⟨"memory_mb", (IsNumber · c.memoryMb.toNat), c.memoryMb = 2048⟩]

/-- The fields of a check. -/
def checkFields (c : Check) : List Field :=
  [⟨"label", (IsText · c.label), False⟩, ⟨"command", (IsText · c.command), False⟩]

/-- The node is a check. -/
def LaysCheck (n : Node) (c : Check) : Prop := HasFields (checkFields c) n

/-- The fields of a plan. -/
def planFields (p : Plan) : List Field :=
  [⟨"env", LaysEnv p.env, p.env = .empty⟩, ⟨"checks", (IsList LaysCheck · p.checks), False⟩,
   ⟨"smoke", fun n => ∃ c, p.smoke = some c ∧ LaysCheck n c, p.smoke = none⟩]

/-- The fields of a template whose file is at a place. The place lends its name. -/
def fileFields (place : Files.Place) (t : Template) : List Field :=
  [⟨"alias", (IsText · t.name), defaultName? place = some t.name⟩,
   ⟨"image", HasFields (recipeFields t.recipe), False⟩,
   ⟨"capacity", HasFields (capacityFields t.capacity), t.capacity = ⟨2, 2048⟩⟩,
   ⟨"verify", HasFields (planFields t.plan), False⟩]

/-! ## The reader of each part -/

/-- The draft holds what the image has for a key. -/
def RecipeAgrees (r : Recipe) (key : String) (draft : ImageDraft) : Prop :=
  match key with
  | "base" => draft.base = some r.base
  | "user" => draft.user = r.user
  | "env" => draft.env = r.env
  | "steps" => draft.steps = some r.steps
  | _ => True

theorem imageForm_fills (r : Recipe) : imageForm.Fills (recipeFields r) (RecipeAgrees r) where
  known := by simp [recipeFields, imageForm, Part.keys, Part.fields]
  distinct := by simp [recipeFields]
  fill := by
    simp only [recipeFields, List.forall_mem_cons]
    refine ⟨fun place n draft h => ?base, fun place n draft h => ?user, fun place n draft h => ?env,
      fun place n draft h => ?steps, fun _ hx => nomatch hx⟩
    case base =>
      refine ⟨{ draft with base := r.base }, ?_, rfl, by simp [RecipeAgrees]⟩
      simp [imageForm, readText_of_isText h]
    case user =>
      refine ⟨{ draft with user := r.user }, ?_, rfl, by simp [RecipeAgrees]⟩
      simp [imageForm, readText_of_isText h]
    case env =>
      refine ⟨{ draft with env := r.env }, ?_, rfl, by simp [RecipeAgrees]⟩
      simp [imageForm, readEnv_of_laysEnv h]
    case steps =>
      refine ⟨{ draft with steps := r.steps }, ?_, rfl, by simp [RecipeAgrees]⟩
      have hsteps := readList_of_isList (fun _ _ h => readText_of_isText h) h
      simp [imageForm, hsteps]
  spare := by
    simp only [recipeFields, List.forall_mem_cons]
    exact ⟨False.elim, Eq.symm, Eq.symm, False.elim, fun _ hx => nomatch hx⟩

theorem readRecipe_of_hasFields {r : Recipe} {n : Node} (h : HasFields (recipeFields r) n)
    (place : Place) : readRecipe place n = .ok r := by
  obtain ⟨draft, hdraft, hagrees⟩ := Form.read_of_hasFields (imageForm_fills r) h place
  simp only [recipeFields, List.forall_mem_cons, RecipeAgrees] at hagrees
  obtain ⟨hbase, huser, henv, hsteps, -⟩ := hagrees
  simp [readRecipe, hdraft, hbase, huser, henv, hsteps, need]

/-- The draft holds what the capacity has for a key. -/
def CapacityAgrees (c : Capacity) (key : String) (draft : Capacity) : Prop :=
  match key with
  | "cpus" => draft.cpus = c.cpus
  | "memory_mb" => draft.memoryMb = c.memoryMb
  | _ => True

theorem capacityForm_fills (c : Capacity) :
    capacityForm.Fills (capacityFields c) (CapacityAgrees c) where
  known := by simp [capacityFields, capacityForm, Part.keys, Part.fields]
  distinct := by simp [capacityFields]
  fill := by
    simp only [capacityFields, List.forall_mem_cons]
    refine ⟨fun place n draft h => ?cpus, fun place n draft h => ?memory, fun _ hx => nomatch hx⟩
    case cpus =>
      refine ⟨{ draft with cpus := c.cpus }, ?_, rfl, by simp [CapacityAgrees]⟩
      simp [capacityForm, readUnsigned_of_isNumber h c.cpus.toNat_lt]
    case memory =>
      refine ⟨{ draft with memoryMb := c.memoryMb }, ?_, rfl, by simp [CapacityAgrees]⟩
      simp [capacityForm, readUnsigned_of_isNumber h c.memoryMb.toNat_lt]
  spare := by
    simp only [capacityFields, List.forall_mem_cons]
    exact ⟨Eq.symm, Eq.symm, fun _ hx => nomatch hx⟩

theorem readCapacity_of_hasFields {c : Capacity} {n : Node} (h : HasFields (capacityFields c) n)
    (place : Place) : capacityForm.read place n = .ok c := by
  obtain ⟨draft, hdraft, hagrees⟩ := Form.read_of_hasFields (capacityForm_fills c) h place
  simp only [capacityFields, List.forall_mem_cons, CapacityAgrees] at hagrees
  obtain ⟨hcpus, hmemory, -⟩ := hagrees
  rw [hdraft]
  cases draft
  cases hcpus
  cases hmemory
  rfl

/-- The draft holds what the check has for a key. -/
def CheckAgrees (c : Check) (key : String) (draft : CheckDraft) : Prop :=
  match key with
  | "label" => draft.label = some c.label
  | "command" => draft.command = some c.command
  | _ => True

theorem checkForm_fills (c : Check) : checkForm.Fills (checkFields c) (CheckAgrees c) where
  known := by simp [checkFields, checkForm, Part.keys, Part.fields]
  distinct := by simp [checkFields]
  fill := by
    simp only [checkFields, List.forall_mem_cons]
    refine ⟨fun place n draft h => ?label, fun place n draft h => ?command, fun _ hx => nomatch hx⟩
    case label =>
      refine ⟨{ draft with label := c.label }, ?_, rfl, by simp [CheckAgrees]⟩
      simp [checkForm, readText_of_isText h]
    case command =>
      refine ⟨{ draft with command := c.command }, ?_, rfl, by simp [CheckAgrees]⟩
      simp [checkForm, readText_of_isText h]
  spare := by simp [checkFields]

theorem readCheck_of_laysCheck {n : Node} {c : Check} (h : LaysCheck n c) (place : Place) :
    readCheck place n = .ok c := by
  obtain ⟨draft, hdraft, hagrees⟩ := Form.read_of_hasFields (checkForm_fills c) h place
  simp only [checkFields, List.forall_mem_cons, CheckAgrees] at hagrees
  obtain ⟨hlabel, hcommand, -⟩ := hagrees
  simp [readCheck, hdraft, hlabel, hcommand, need]

theorem readOptional_of_laysCheck {n : Node} {c : Check} (h : LaysCheck n c) (place : Place) :
    readOptional readCheck place n = .ok (some c) := by
  obtain ⟨_, _, hentries, -⟩ := id h
  have hgiven : isGiven place n = .ok true := by simp [isGiven, hentries]
  simp [readOptional, hgiven, readCheck_of_laysCheck h]

/-- The draft holds what the plan has for a key. -/
def PlanAgrees (p : Plan) (key : String) (draft : PlanDraft) : Prop :=
  match key with
  | "env" => draft.env = p.env
  | "checks" => draft.checks = some p.checks
  | "smoke" => draft.smoke = p.smoke
  | _ => True

theorem planForm_fills (p : Plan) : planForm.Fills (planFields p) (PlanAgrees p) where
  known := by simp [planFields, planForm, Part.keys, Part.fields]
  distinct := by simp [planFields]
  fill := by
    simp only [planFields, List.forall_mem_cons]
    refine ⟨fun place n draft h => ?env, fun place n draft h => ?checks,
      fun place n draft h => ?smoke, fun _ hx => nomatch hx⟩
    case env =>
      refine ⟨{ draft with env := p.env }, ?_, rfl, by simp [PlanAgrees]⟩
      simp [planForm, readEnv_of_laysEnv h]
    case checks =>
      refine ⟨{ draft with checks := p.checks }, ?_, rfl, by simp [PlanAgrees]⟩
      have hchecks := readList_of_isList (fun _ _ h => readCheck_of_laysCheck h) h
      simp [planForm, hchecks]
    case smoke =>
      obtain ⟨c, hc, h⟩ := h
      refine ⟨{ draft with smoke := p.smoke }, ?_, rfl, by simp [PlanAgrees]⟩
      simp [planForm, readOptional_of_laysCheck h, hc]
  spare := by
    simp only [planFields, List.forall_mem_cons]
    exact ⟨Eq.symm, False.elim, Eq.symm, fun _ hx => nomatch hx⟩

theorem readPlan_of_hasFields {p : Plan} {n : Node} (h : HasFields (planFields p) n)
    (place : Place) : readPlan place n = .ok p := by
  obtain ⟨draft, hdraft, hagrees⟩ := Form.read_of_hasFields (planForm_fills p) h place
  simp only [planFields, List.forall_mem_cons, PlanAgrees] at hagrees
  obtain ⟨henv, hchecks, hsmoke, -⟩ := hagrees
  simp [readPlan, hdraft, henv, hchecks, hsmoke, need]

/-! ## Files -/

variable {place : Files.Place} {t : Template}

/-- The draft holds what the template has for a key. The name agrees if it is told, or if the place
of the file lends just this one. -/
def TemplateAgrees (path : Files.Path) (place : Files.Place) (t : Template) (key : String)
    (draft : FileDraft) : Prop :=
  match key with
  | "alias" => nameOf path place draft.name = .ok t.name
  | "image" => draft.recipe = some t.recipe
  | "capacity" => draft.capacity = t.capacity
  | "verify" => draft.plan = some t.plan
  | _ => True

theorem fileForm_fills (path : Files.Path) (place : Files.Place) (t : Template) :
    fileForm.Fills (fileFields place t) (TemplateAgrees path place t) where
  known := by simp [fileFields, fileForm, Part.keys, Part.fields]
  distinct := by simp [fileFields]
  fill := by
    simp only [fileFields, List.forall_mem_cons]
    refine ⟨fun place n draft h => ?name, fun place n draft h => ?image,
      fun place n draft h => ?capacity, fun place n draft h => ?verify, fun _ hx => nomatch hx⟩
    case name =>
      refine ⟨{ draft with name := t.name }, ?_, rfl, by simp [TemplateAgrees, nameOf]⟩
      simp [fileForm, readOptional_of_isText h]
    case image =>
      refine ⟨{ draft with recipe := t.recipe }, ?_, rfl, by simp [TemplateAgrees]⟩
      simp [fileForm, readRecipe_of_hasFields h]
    case capacity =>
      refine ⟨{ draft with capacity := t.capacity }, ?_, rfl, by simp [TemplateAgrees]⟩
      simp [fileForm, readCapacity_of_hasFields h]
    case verify =>
      refine ⟨{ draft with plan := t.plan }, ?_, rfl, by simp [TemplateAgrees]⟩
      simp [fileForm, readPlan_of_hasFields h]
  spare := by
    simp only [fileFields, List.forall_mem_cons]
    refine ⟨fun h => ?_, False.elim, Eq.symm, False.elim, fun _ hx => nomatch hx⟩
    simp [TemplateAgrees, fileForm, nameOf, h]

theorem ofNode_of_hasFields (path : Files.Path) {root : Node}
    (h : HasFields (fileFields place t) root) :
    ∃ content, Content.ofNode root = .ok content ∧ nameOf path place content.name = .ok t.name ∧
      content.recipe = t.recipe ∧ content.capacity = t.capacity ∧ content.plan = t.plan := by
  obtain ⟨draft, hdraft, hagrees⟩ := Form.read_of_hasFields (fileForm_fills path place t) h []
  simp only [fileFields, List.forall_mem_cons, TemplateAgrees] at hagrees
  obtain ⟨hname, hrecipe, hcapacity, hplan, -⟩ := hagrees
  refine ⟨⟨draft.name, t.recipe, draft.capacity, t.plan⟩, ?_, hname, rfl, hcapacity, rfl⟩
  simp [Content.ofNode, hdraft, hrecipe, hplan, need]

section

variable {files : Files} {path : Files.Path} {bytes : Bytes} {root : Node}
  (hfile : files.find path = .ok ⟨place, .file bytes⟩)
  (hdocument : (Text.decode? bytes).bind Yaml.document? = some root)

include hfile hdocument

/-- What is loaded is told by the root of the document and the place of the file. -/
theorem load_of_ofNode {content : Content} (h : Content.ofNode root = .ok content) :
    load files path = nameOf path place content.name >>= fun name =>
      .ok ⟨name, content.recipe, content.capacity, content.plan⟩ := by
  have hbytes : Content.ofBytes bytes = .ok content := by simp [Content.ofBytes, hdocument, h]
  simp only [load, hfile, hbytes]
  cases nameOf path place content.name <;> rfl

theorem load_of_ofNode_error {problem : Problem} (h : Content.ofNode root = .error problem) :
    ∃ fault, load files path = .error (.document fault) := by
  simp [load, hfile, Content.ofBytes, hdocument, h]

/-- A file is read as the template that its document lays out. -/
theorem load_of_layout (h : HasFields (fileFields place t) root) : load files path = .ok t := by
  obtain ⟨content, hcontent, hname, hrecipe, hcapacity, hplan⟩ := ofNode_of_hasFields path h
  rw [load_of_ofNode hfile hdocument hcontent, hname, hrecipe, hcapacity, hplan]
  rfl

end

/-- The document that a written text is, from its tokens. -/
theorem document_of_tokens {text : String} {tokens : List Yaml.Token}
    (h : Yaml.tokens? text = some tokens) :
    (Text.decode? (Text.encode text)).bind Yaml.document? =
      (·.1) <$> (Yaml.Reader.document (4 * tokens.length + 4)).run { tokens } := by
  rw [Text.decode?_encode, Option.bind_some]
  simp [Yaml.document?, h]

/-- A scalar without quotes. -/
def bare (text : String) : Node := .scalar { text }

/-- A template file with its keys out of order, and without its name. -/
def scattered : String :=
  "capacity: \x7bmemory_mb: 0x10\x7d\n" ++
  "verify: \x7bchecks: []\x7d\n" ++
  "image: \x7benv: [B=, A=x=y], steps: [s], base: b\x7d\n"

/-- The document that it is. -/
def scatteredRoot : Node :=
  .mapping
    [(bare "capacity", .mapping [(bare "memory_mb", bare "0x10")]),
     (bare "verify", .mapping [(bare "checks", .sequence [])]),
     (bare "image", .mapping [(bare "env", .sequence [bare "B=", bare "A=x=y"]),
       (bare "steps", .sequence [bare "s"]), (bare "base", bare "b")])]

theorem document_scattered :
    (Text.decode? (Text.encode scattered)).bind Yaml.document? = some scatteredRoot := by
  have htokens : Yaml.tokens? scattered = some
      [.blockMappingStart, .key, .scalar true "capacity", .value, .flowMappingStart, .key,
        .scalar true "memory_mb", .value, .scalar true "0x10", .flowMappingEnd, .key,
        .scalar true "verify", .value, .flowMappingStart, .key, .scalar true "checks", .value,
        .flowSequenceStart, .flowSequenceEnd, .flowMappingEnd, .key, .scalar true "image", .value,
        .flowMappingStart, .key, .scalar true "env", .value, .flowSequenceStart,
        .scalar true "B=", .flowEntry, .scalar true "A=x=y", .flowSequenceEnd, .flowEntry, .key,
        .scalar true "steps", .value, .flowSequenceStart, .scalar true "s", .flowSequenceEnd,
        .flowEntry, .key, .scalar true "base", .value, .scalar true "b", .flowMappingEnd,
        .blockEnd, .streamEnd] := by
    decide +kernel
  rw [document_of_tokens htokens]
  rfl

/-- The template that it is in a directory `Work`. -/
def scatteredTemplate : Template :=
  ⟨"work", ⟨"b", "root", .ofList [("A", "x=y"), ("B", "")], ["s"]⟩, ⟨2, 16⟩, ⟨.empty, [], none⟩⟩

theorem load_of_layout_scattered :
    let place : Files.Place := [Text.encode "t.yml", Text.encode "Work"]
    let bytes := Text.encode scattered
    (Text.decode? bytes).bind Yaml.document? = some scatteredRoot ∧
      HasFields (fileFields place scatteredTemplate) scatteredRoot ∧
      load ⟨fun _ => .ok ⟨place, .file bytes⟩⟩ (Text.encode "t.yml") = .ok scatteredTemplate := by
  intro place bytes
  have hbare (text : String) (h : Yaml.plainMeaning? text = some (.text text)) :
      IsText (bare text) text := ⟨_, rfl, h⟩
  have hcapacity : HasFields (capacityFields scatteredTemplate.capacity)
      (.mapping [(bare "memory_mb", bare "0x10")]) := by
    refine .intro [_] [_] rfl ?_ (.swap ..) (by simp [scatteredTemplate])
    exact .cons ⟨hbare _ (by decide +kernel), _, rfl, by decide +kernel⟩ .nil
  have hverify : HasFields (planFields scatteredTemplate.plan)
      (.mapping [(bare "checks", .sequence [])]) := by
    refine .intro [_] [_, _] rfl ?_ (.swap ..) (by simp [scatteredTemplate])
    exact .cons ⟨hbare _ (by decide +kernel), [], rfl, .nil⟩ .nil
  have hturned (a b c d : Field) : ([c, d, a] ++ [b]).Perm [a, b, c, d] :=
    (List.perm_append_comm : ([c, d] ++ [a, b]).Perm ([a, b] ++ [c, d]))
  have himage : HasFields (recipeFields scatteredTemplate.recipe)
      (.mapping [(bare "env", .sequence [bare "B=", bare "A=x=y"]),
        (bare "steps", .sequence [bare "s"]), (bare "base", bare "b")]) := by
    have henv : LaysEnv scatteredTemplate.recipe.env (.sequence [bare "B=", bare "A=x=y"]) := by
      refine .list (.swap ..) (by decide) ⟨_, rfl, .cons ?_ (.cons ?_ .nil)⟩
      · exact hbare "B=" (by decide +kernel)
      · exact hbare "A=x=y" (by decide +kernel)
    have hsteps : IsList IsText (.sequence [bare "s"]) scatteredTemplate.recipe.steps :=
      ⟨_, rfl, .cons (hbare "s" (by decide +kernel)) .nil⟩
    refine .intro [_, _, _] [_] rfl ?_ (hturned ..) (by simp [scatteredTemplate])
    exact .cons ⟨hbare _ (by decide +kernel), henv⟩ (.cons ⟨hbare _ (by decide +kernel), hsteps⟩
      (.cons ⟨hbare _ (by decide +kernel), hbare _ (by decide +kernel)⟩ .nil))
  have hroot : HasFields (fileFields place scatteredTemplate) scatteredRoot := by
    refine .intro [_, _, _] [_] rfl ?_ ((hturned ..).trans (.swap ..)) ?_
    · exact .cons ⟨hbare _ (by decide +kernel), hcapacity⟩
        (.cons ⟨hbare _ (by decide +kernel), hverify⟩
          (.cons ⟨hbare _ (by decide +kernel), himage⟩ .nil))
    · have hname : defaultName? place = some "work" := by decide +kernel
      simpa [scatteredTemplate] using hname
  exact ⟨document_scattered, hroot, load_of_layout rfl document_scattered hroot⟩

end SandboxImage.Template
