import Mathlib.Data.List.DropRight
import BuildTelemetry.Proofs.IncludedBuilds

/-!
# Labels and what they say

The names of the labels of a build are fixed before any build is looked at, the values come from
each build. Both follow one list of slots, so that a name and a value that stand in one place belong
to one slot.

1. What a label says is defined without the functions that compute it: the repository in a name
   (`NamesRepository`), the value of a parameter (`HasParameter`), the names of parameters as they
   were meant (`TrimsNames`). The computed ones are these.
2. The labels of a build can be read if nothing fails that one of its slots needs, and they are then
   those of its slots, each with its value (`buildLabels_eq_ok`).
3. So names, values and labels agree, the labels begin with those of the job, and in their order
   they say what was configured (`labelsAligned`).
-/

namespace BuildTelemetry

/-! ## 1. What labels say -/

/-- What a label says of the repository of a job: the text between the first two slashes of the name
of the job, and that there is none if there are fewer slashes. -/
inductive NamesRepository : List Char → String → Prop
  | between (owner repository rest : List Char) : '/' ∉ owner → '/' ∉ repository →
      NamesRepository (owner ++ '/' :: (repository ++ '/' :: rest)) (String.ofList repository)
  | missing (name : List Char) : name.count '/' < 2 → NamesRepository name "NA"

/-- What a label says of a parameter: the value of the first one of exactly this name, and that it
is undefined if there is none. -/
inductive HasParameter (parameters : List (String × String)) (name : String) : String → Prop
  | first (before : List (String × String)) (value : String) (after : List (String × String)) :
      parameters = before ++ (name, value) :: after → (∀ p ∈ before, p.1 ≠ name) →
      HasParameter parameters name value
  | missing : (∀ p ∈ parameters, p.1 ≠ name) → HasParameter parameters name "UNDEFINED"

/-- What a label says of the status of a build. -/
def BuildInfo.status (info : BuildInfo) : String :=
  if info.building then "RUNNING" else (info.result.map BuildResult.text).getD "UNDEFINED"

/-- A text of white space only. -/
def Blank (text : List Char) : Prop := ∀ c ∈ text, Text.blankCharacters.contains c

/-- A name is what is left of a text without the white space around it. -/
structure Trims (text name : List Char) : Prop where
  around : ∃ before after, text = before ++ name ++ after ∧ Blank before ∧ Blank after
  head : ∀ c, name.head? = some c → Text.blankCharacters.contains c = false
  last : ∀ c, name.getLast? = some c → Text.blankCharacters.contains c = false

/-- Names as they were written and as they were meant: without the white space around them, and
without those that are blank. -/
inductive TrimsNames : List String → List String → Prop
  | nil : TrimsNames [] []
  | blank {text : String} {texts names : List String} :
      Blank text.toList → TrimsNames texts names → TrimsNames (text :: texts) names
  | name {text name : String} {texts names : List String} :
      name ≠ "" → Trims text.toList name.toList → TrimsNames texts names →
      TrimsNames (text :: texts) (name :: names)

/-- A text without a slash is not cut. -/
theorem dropWhile_eq_nil_of_no_slash {cs : List Char} (h : '/' ∉ cs) :
    cs.dropWhile (· != '/') = [] :=
  List.dropWhile_eq_nil_iff.mpr fun _ hc => bne_iff_ne.mpr fun heq => h (heq ▸ hc)

/-- A text with a slash is cut before the first one. -/
theorem exists_cut_at_slash {cs : List Char} (h : '/' ∈ cs) :
    ∃ rest, '/' ∉ cs.takeWhile (· != '/') ∧ cs.dropWhile (· != '/') = '/' :: rest ∧
      cs = cs.takeWhile (· != '/') ++ '/' :: rest := by
  have htaken : '/' ∉ cs.takeWhile (· != '/') := fun hmem => by
    simpa using List.mem_takeWhile_imp hmem
  have hall : cs.takeWhile (· != '/') ++ cs.dropWhile (· != '/') = cs :=
    List.takeWhile_append_dropWhile
  cases hdropped : cs.dropWhile (· != '/') with
  | nil =>
    rw [hdropped, List.append_nil] at hall
    exact absurd h (hall ▸ htaken)
  | cons c rest =>
    have hc := List.head?_dropWhile_not (· != '/') cs
    rw [hdropped] at hc
    have hslash : c = '/' := by simpa using hc
    rw [hdropped, hslash] at hall
    exact ⟨rest, htaken, by rw [hslash], hall.symm⟩

/-- The computed repository is the one that the name says. -/
theorem namesRepository (fullName : String) :
    NamesRepository fullName.toList (repository fullName) := by
  unfold repository
  by_cases hfirst : '/' ∈ fullName.toList
  · obtain ⟨behind, howner, hdropped, hname⟩ := exists_cut_at_slash hfirst
    rw [hdropped, List.drop_one, List.tail_cons]
    by_cases hsecond : '/' ∈ behind
    · obtain ⟨rest, hrepository, -, hbehind⟩ := exists_cut_at_slash hsecond
      rw [if_pos (List.contains_iff_mem.mpr hsecond)]
      have hbetween := NamesRepository.between _ _ rest howner hrepository
      rwa [← hbehind, ← hname] at hbetween
    · rw [if_neg (mt List.contains_iff_mem.mp hsecond)]
      refine .missing _ ?_
      rw [hname, List.count_append, List.count_cons_self, List.count_eq_zero_of_not_mem howner,
        List.count_eq_zero_of_not_mem hsecond]
      decide
  · rw [dropWhile_eq_nil_of_no_slash hfirst]
    refine .missing _ ?_
    rw [List.count_eq_zero_of_not_mem hfirst]
    decide

theorem hasParameter (parameters : List (String × String)) (name : String) :
    HasParameter parameters name (parameterValue parameters name) := by
  unfold parameterValue
  cases hfound : parameters.find? fun p => p.1 == name with
  | none =>
    refine .missing fun p hp heq => ?_
    exact List.find?_eq_none.mp hfound p hp (beq_iff_eq.mpr heq)
  | some p =>
    obtain ⟨hname, before, after, hall, hbefore⟩ := List.find?_eq_some_iff_append.mp hfound
    obtain ⟨found, value⟩ := p
    obtain rfl : found = name := beq_iff_eq.mp hname
    exact .first before value after hall fun p hp => by simpa using hbefore p hp

theorem trims_trimBlanks (text : String) :
    Trims text.toList (Text.trimBlanks text).toList := by
  -- first the blanks in front are dropped, then those at the end of the rest
  let p := Text.blankCharacters.contains
  let behind := text.toList.dropWhile p
  have hname : (Text.trimBlanks text).toList = behind.rdropWhile p := String.toList_ofList
  rw [hname]
  refine ⟨⟨text.toList.takeWhile p, behind.rtakeWhile p, ?_, fun c => List.mem_takeWhile_imp,
    fun c => List.mem_rtakeWhile_imp⟩, fun c hc => ?_, fun c hc => ?_⟩
  · rw [List.append_assoc, List.rdropWhile_append_rtakeWhile, List.takeWhile_append_dropWhile]
  · have hprefix : behind.rdropWhile p <+: behind := List.rdropWhile_prefix p behind
    have hhead := List.head?_dropWhile_not p text.toList
    obtain ⟨rest, hrest⟩ := hprefix
    rw [show text.toList.dropWhile p = behind from rfl, ← hrest, List.head?_append, hc] at hhead
    exact hhead
  · obtain ⟨hne, rfl⟩ := List.mem_getLast?_eq_getLast hc
    exact Bool.eq_false_iff.mpr (List.rdropWhile_last_not p behind hne)

theorem blank_of_trims_nil {text : List Char} (h : Trims text []) : Blank text := by
  obtain ⟨before, after, rfl, hbefore, hafter⟩ := h.around
  intro c hc
  rw [List.append_nil, List.mem_append] at hc
  exact hc.elim (hbefore c) (hafter c)

theorem trimsNames_trimBlanks (texts : List String) :
    TrimsNames texts ((texts.map Text.trimBlanks).filter fun name => !name.isEmpty) := by
  induction texts with
  | nil => exact .nil
  | cons text texts ih =>
    have htrims : Trims text.toList (Text.trimBlanks text).toList := trims_trimBlanks text
    by_cases hempty : Text.trimBlanks text = ""
    · rw [List.map_cons, hempty, List.filter_cons_of_neg (by decide)]
      rw [hempty] at htrims
      exact .blank (blank_of_trims_nil htrims) ih
    · rw [List.map_cons, List.filter_cons_of_pos (by simpa using hempty)]
      exact .name hempty htrims ih

/-! ## 2. Labels of slots -/

variable {c : Config} {j : Job} {b : Build} {pairs : List LabelPair}

/-- Nothing fails that the slot of a build needs. -/
def LabelSlot.Readable (j : Job) (b : Build) : LabelSlot → Prop
  | .jobName => j.Nameable
  | .repository => j.Nameable
  | .buildable => JobAccessor.isBuildable ∉ j.failing
  | .status => BuildAccessor.isBuilding ∉ b.failing ∧
      (b.info.building = false → BuildAccessor.result ∉ b.failing)
  | _ => True

theorem readStatus_eq_ok {status : String} :
    readStatus b = .ok status ↔
      LabelSlot.Readable j b .status ∧ slotValue j b .status = status := by
  unfold readStatus LabelSlot.Readable slotValue
  rw [Build.isBuilding, readThrough_bind_eq_ok]
  cases b.info.building with
  | true =>
    constructor
    · rintro ⟨hread, h⟩
      exact ⟨⟨hread, nofun⟩, reading_pure_eq_ok.mp h⟩
    · rintro ⟨⟨hread, _⟩, h⟩
      exact ⟨hread, reading_pure_eq_ok.mpr h⟩
  | false =>
    rw [if_neg Bool.false_ne_true, Build.result, readThrough_bind_eq_ok, reading_pure_eq_ok]
    constructor
    · rintro ⟨hread, hresult, h⟩
      exact ⟨⟨hread, fun _ => hresult⟩, h⟩
    · rintro ⟨⟨hread, hresult⟩, h⟩
      exact ⟨hread, hresult rfl, h⟩

/-- Reading a slot gives its value, unless something fails that it needs. -/
theorem readBuildSlot_eq_ok {slot : LabelSlot} {value : String} :
    readBuildSlot j b b.info.parameters slot = .ok value ↔
      slot.Readable j b ∧ slotValue j b slot = value := by
  cases slot with
  | jobName => exact Job.fullName_eq_ok
  | repository =>
    constructor
    · intro h
      obtain ⟨name, hname, hvalue⟩ := reading_bind_eq_ok.mp h
      obtain ⟨hnameable, rfl⟩ := Job.fullName_eq_ok.mp hname
      exact ⟨hnameable, reading_pure_eq_ok.mp hvalue⟩
    · rintro ⟨hnameable, rfl⟩
      exact reading_bind_eq_ok.mpr ⟨_, Job.Nameable.fullName hnameable, rfl⟩
  | buildable =>
    unfold readBuildSlot readBaseSlot Job.isBuildable
    rw [readThrough_bind_eq_ok, reading_pure_eq_ok]
    rfl
  | status => exact readStatus_eq_ok
  | parameters | parameter name =>
    exact reading_pure_eq_ok.trans ⟨fun h => ⟨trivial, h⟩, And.right⟩

namespace Config

/-- Values are read like the labels that they stand in. -/
theorem mapM_eq_labelsOf (c : Config) (slots : List LabelSlot) (read : LabelSlot → Reading String) :
    slots.mapM read = (c.labelsOf slots read).map (List.map Prod.snd) := by
  induction slots with
  | nil => rfl
  | cons slot slots ih =>
    rw [labelsOf] at ih
    rw [labelsOf, List.mapM_cons, List.mapM_cons, ih]
    cases read slot with
    | error fault => rfl
    | ok value =>
      cases slots.mapM fun slot => do return (c.slotName slot, ← read slot) <;> rfl

theorem jobLabelValues_eq (c : Config) (j : Job) :
    c.jobLabelValues j = (c.jobLabels j).map (List.map Prod.snd) :=
  c.mapM_eq_labelsOf c.baseSlots (readBaseSlot j)

theorem buildLabelValues_eq (c : Config) (j : Job) (b : Build) :
    c.buildLabelValues j b = (c.buildLabels j b).map (List.map Prod.snd) := by
  unfold buildLabelValues buildLabels
  cases b.parameters with
  | error fault => rfl
  | ok parameters => exact c.mapM_eq_labelsOf c.buildSlots (readBuildSlot j b parameters)

/-- Labels can be read if their slots can, and they are then those of the slots. -/
theorem labelsOf_eq_ok {slots : List LabelSlot} :
    c.labelsOf slots (readBuildSlot j b b.info.parameters) = .ok pairs ↔
      (∀ slot ∈ slots, slot.Readable j b) ∧
        pairs = slots.map fun slot => (c.slotName slot, slotValue j b slot) := by
  have hpair (slot : LabelSlot) (pair : LabelPair) :
      (do return (c.slotName slot, ← readBuildSlot j b b.info.parameters slot) :
        Reading LabelPair) = .ok pair ↔
        slot.Readable j b ∧ (c.slotName slot, slotValue j b slot) = pair := by
    rw [reading_bind_eq_ok]
    constructor
    · rintro ⟨value, hvalue, heq⟩
      obtain ⟨hreadable, rfl⟩ := readBuildSlot_eq_ok.mp hvalue
      exact ⟨hreadable, reading_pure_eq_ok.mp heq⟩
    · rintro ⟨hreadable, rfl⟩
      exact ⟨_, readBuildSlot_eq_ok.mpr ⟨hreadable, rfl⟩, rfl⟩
  unfold labelsOf
  simp only [mapM_eq_ok, hpair, List.forall₂_and_left]
  rw [← List.forall₂_map_left_iff (R := Eq), List.forall₂_eq_eq_eq, eq_comm (a := pairs)]

/-- The labels of a job are those of its slots, which no build has a part in. -/
theorem jobLabels_eq_ok (b : Build) :
    c.jobLabels j = .ok pairs ↔
      (∀ slot ∈ c.baseSlots, slot.Readable j b) ∧
        pairs = c.baseSlots.map fun slot => (c.slotName slot, slotValue j b slot) := by
  rw [← labelsOf_eq_ok]
  rfl

/-- The labels of a build can be read if its parameters and its slots can. -/
theorem buildLabels_eq_ok :
    c.buildLabels j b = .ok pairs ↔
      BuildAccessor.parameters ∉ b.failing ∧ (∀ slot ∈ c.buildSlots, slot.Readable j b) ∧
        pairs = c.buildSlots.map fun slot => (c.slotName slot, slotValue j b slot) := by
  rw [buildLabels, Build.parameters, readThrough_bind_eq_ok, labelsOf_eq_ok]

/-- Names and labels stand in the same order. -/
theorem names_of_jobLabels (h : c.jobLabels j = .ok pairs) :
    pairs.map Prod.fst = c.jobLabelNames := by
  obtain ⟨_, rfl⟩ := (jobLabels_eq_ok (.plain 0)).mp h
  rw [List.map_map]
  rfl

theorem names_of_buildLabels (h : c.buildLabels j b = .ok pairs) :
    pairs.map Prod.fst = c.buildLabelNames := by
  obtain ⟨_, _, rfl⟩ := buildLabels_eq_ok.mp h
  rw [List.map_map]
  rfl

/-- The label names with label values that were read are the labels. -/
theorem jobLabels_of_values {values : List String} (h : c.jobLabelValues j = .ok values) :
    c.jobLabels j = .ok (c.jobLabelNames.zip values) := by
  rw [jobLabelValues_eq] at h
  obtain ⟨pairs, hpairs, rfl⟩ := reading_map_eq_ok.mp h
  rw [hpairs, ← List.zip_of_prod (names_of_jobLabels hpairs) rfl]

theorem buildLabels_of_values {values : List String} (h : c.buildLabelValues j b = .ok values) :
    c.buildLabels j b = .ok (c.buildLabelNames.zip values) := by
  rw [buildLabelValues_eq] at h
  obtain ⟨pairs, hpairs, rfl⟩ := reading_map_eq_ok.mp h
  rw [hpairs, ← List.zip_of_prod (names_of_buildLabels hpairs) rfl]

end Config

/-! ## 3. Names, values and what they say -/

namespace Config

/-- Nothing fails that the labels of a build need: its parameters, whatever is configured, and its
state where there is a label for it. -/
structure ReadsLabels (c : Config) (j : Job) (b : Build) : Prop where
  parameters : BuildAccessor.parameters ∉ b.failing
  name : j.Nameable
  buildable : JobAccessor.isBuildable ∉ j.failing
  status : c.statusLabel → BuildAccessor.isBuilding ∉ b.failing ∧
    (b.info.building = false → BuildAccessor.result ∉ b.failing)

/-- The labels of a build in their order, and what they say: the name of the job under the
configured name, its repository and whether it can be built; then, if they are asked for, all
parameters of the build and its status; then each of the configured parameters. -/
def Describes (c : Config) (j : Job) (b : Build) (pairs : List LabelPair) : Prop :=
  ∃ (repository : String) (parameters : List LabelPair),
    NamesRepository j.info.fullName.toList repository ∧
    TrimsNames c.labelledParameters (parameters.map Prod.fst) ∧
    (∀ p ∈ parameters, HasParameter b.info.parameters p.1 p.2) ∧
    pairs =
      [(c.jobLabel, j.info.fullName), ("repo", repository),
        ("buildable", if j.info.buildable then "true" else "false")] ++
      (if c.parametersLabel then
        [("parameters", ";".intercalate (b.info.parameters.map fun p => p.1 ++ "=" ++ p.2))]
      else []) ++
      (if c.statusLabel then [("status", b.info.status)] else []) ++ parameters

/-- The names, the values and the labels of a build agree, begin with those of its job and say what
was configured. -/
structure LabelsAligned (c : Config) (j : Job) (b : Build) : Prop where
  readable : (∃ pairs, c.buildLabels j b = .ok pairs) ↔ c.ReadsLabels j b
  values : c.buildLabelValues j b = (c.buildLabels j b).map (List.map Prod.snd)
  names : ∀ pairs, c.buildLabels j b = .ok pairs → pairs.map Prod.fst = c.buildLabelNames
  base : ∀ pairs, c.buildLabels j b = .ok pairs → c.jobLabels j = .ok (pairs.take 3)
  describes : ∀ pairs, c.buildLabels j b = .ok pairs → c.Describes j b pairs

/-- The slots of parameters need nothing but the parameters. -/
theorem readable_buildSlots_iff :
    (∀ slot ∈ c.buildSlots, slot.Readable j b) ↔
      j.Nameable ∧ JobAccessor.isBuildable ∉ j.failing ∧
        (c.statusLabel → LabelSlot.Readable j b .status) := by
  have hslots : ∀ slot, slot ∈ c.buildSlots ↔ slot ∈ c.baseSlots ∨
      (c.parametersLabel ∧ slot = .parameters) ∨ (c.statusLabel ∧ slot = .status) ∨
      slot ∈ c.parameterNames.map .parameter := by
    intro slot
    unfold buildSlots
    cases c.parametersLabel <;> cases c.statusLabel <;> simp
  simp only [hslots]
  constructor
  · intro h
    exact ⟨h .jobName (.inl (by simp [baseSlots])), h .buildable (.inl (by simp [baseSlots])),
      fun hstatus => h .status (.inr (.inr (.inl ⟨hstatus, rfl⟩)))⟩
  · rintro ⟨hname, hbuildable, hstatus⟩ slot (hbase | ⟨_, rfl⟩ | ⟨hon, rfl⟩ | hparameter)
    · simp only [baseSlots, List.mem_cons, List.not_mem_nil, or_false] at hbase
      rcases hbase with rfl | rfl | rfl
      · exact hname
      · exact hname
      · exact hbuildable
    · trivial
    · exact hstatus hon
    · obtain ⟨_, _, rfl⟩ := List.mem_map.mp hparameter
      trivial

/-- The values of the slots say what the labels are meant to say. -/
theorem describes_buildSlots (c : Config) (j : Job) (b : Build) :
    c.Describes j b (c.buildSlots.map fun slot => (c.slotName slot, slotValue j b slot)) := by
  refine ⟨repository j.info.fullName,
    c.parameterNames.map fun name => (name, parameterValue b.info.parameters name),
    namesRepository _, ?_, ?_, ?_⟩
  · rw [List.map_map]
    have hnames : (Prod.fst ∘ fun name => (name, parameterValue b.info.parameters name)) = id := rfl
    rw [hnames, List.map_id]
    exact trimsNames_trimBlanks c.labelledParameters
  · intro p hp
    obtain ⟨name, _, rfl⟩ := List.mem_map.mp hp
    exact hasParameter b.info.parameters name
  · unfold buildSlots
    rw [List.map_append, List.map_append, List.map_append, List.map_map]
    congr 1
    cases c.parametersLabel <;> cases c.statusLabel <;> rfl

/-- Names, values and labels of every build agree, whatever is configured. -/
theorem labelsAligned (c : Config) (j : Job) (b : Build) : c.LabelsAligned j b where
  readable := by
    simp only [buildLabels_eq_ok, readable_buildSlots_iff]
    constructor
    · rintro ⟨_, hparameters, ⟨hname, hbuildable, hstatus⟩, _⟩
      exact ⟨hparameters, hname, hbuildable, hstatus⟩
    · rintro ⟨hparameters, hname, hbuildable, hstatus⟩
      exact ⟨_, hparameters, ⟨hname, hbuildable, hstatus⟩, rfl⟩
  values := buildLabelValues_eq c j b
  names := fun _ => names_of_buildLabels
  base := by
    intro pairs h
    obtain ⟨_, hslots, rfl⟩ := buildLabels_eq_ok.mp h
    obtain ⟨hname, hbuildable, _⟩ := readable_buildSlots_iff.mp hslots
    refine (jobLabels_eq_ok b).mpr ⟨fun slot hslot => ?_, ?_⟩
    · refine hslots slot ?_
      unfold buildSlots
      simp [hslot]
    · rw [← List.map_take]
      rfl
  describes := by
    intro pairs h
    obtain ⟨_, _, rfl⟩ := buildLabels_eq_ok.mp h
    exact describes_buildSlots c j b

end Config

end BuildTelemetry
