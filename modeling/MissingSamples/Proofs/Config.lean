/-
# Which setting wins

Settings come in layers: a file, the environment, and what is set by hand. Several settings may set
one flag, within a layer and across layers, as soon as their names are the same in capitals. The
last one of the highest layer wins. It alone is read as a truth value.

* `Config.winner` is the setting that wins, found in each layer by itself;
* `Config.flagOf_layers` says that all layers put together make of a flag what its winner makes;
* `Config.load_layers` says what comes of loading.
-/
import MissingSamples.Proofs.Config.TruthValues
import MissingSamples.Proofs.Entries

namespace MissingSamples

/-! ## Capitals -/

/-- No small letter of ASCII is part of a capital form. -/
lemma not_mem_upperChar {c l : Char} (hlow : 0x61 ≤ l.toNat) (hhigh : l.toNat ≤ 0x7a) :
    l ∉ upperChar c := by
  -- the capitals of every stretch lie on one side of the small letters, and so do longer forms
  have hruns : ∀ run ∈ capitalRuns,
      (run.2.1 : Int) + run.2.2.2 < 0x61 ∨ 0x7a < (run.1 : Int) + run.2.2.2 := by decide +kernel
  have hforms : ∀ e ∈ longCapitals, ∀ n ∈ e.2, n < 0x61 ∨ 0x7a < n := by decide +kernel
  have hofNat : ∀ n, Char.ofNat n = l → n = l.toNat := by
    rintro n rfl
    by_cases hvalid : n.isValidChar
    · rw [Char.ofNat, dif_pos hvalid]
      rfl
    · rw [Char.ofNat, dif_neg hvalid] at hlow
      exact absurd hlow (by decide)
  unfold upperChar
  cases hrun : capitalRuns.find? (inCapitalRun c.toNat) with
  | some run =>
    intro hmem
    have hin := List.find?_some hrun
    have hside := hruns run (List.mem_of_find?_eq_some hrun)
    have hcapital := hofNat _ (List.mem_singleton.1 hmem).symm
    simp only [inCapitalRun, Bool.and_eq_true, decide_eq_true_eq] at hin
    omega
  | none =>
    cases hlong : longCapitals.lookup c.toNat with
    | some form =>
      intro hmem
      obtain ⟨n, hn, hnl⟩ := List.mem_map.1 hmem
      obtain ⟨before, after, hsplit, -⟩ := List.lookup_eq_some_iff.1 hlong
      have hside := hforms (c.toNat, form) (by rw [hsplit]; simp) n hn
      have hcapital := hofNat n hnl
      omega
    | none =>
      intro hmem
      obtain rfl := List.mem_singleton.1 hmem
      -- small letters do have capitals
      have hno := List.find?_eq_none.1 hrun (0x61, 0x7a, 1, -32) (List.mem_cons_self ..)
      simp only [inCapitalRun, Nat.mod_one] at hno
      exact hno (by simp [hlow, hhigh])

namespace Config

/-- No name of a setting is that of a field, which has small letters. -/
lemma settingName_ne_field (name : String) (flag : Flag) : settingName name ≠ flag.field := by
  intro h
  have hmem : 's' ∈ (settingName name).toList := by
    rw [h]
    cases flag <;> decide
  rw [settingName, upper, String.toList_ofList, List.mem_flatMap] at hmem
  obtain ⟨c, -, hc⟩ := hmem
  exact not_mem_upperChar (by decide) (by decide) hc

/-! ## The setting that wins -/

/-- The settings with their names in capitals. -/
def inCapitals (settings : Settings) : Settings := settings.map fun e => (settingName e.1, e.2)

/-- The last of some settings whose name in capitals is that of the flag. -/
def lastSetting (settings : Settings) (flag : Flag) : Option Value :=
  (lastWhere (fun e => settingName e.1 == flag.key) settings).map fun e => e.2

/-- The name has our mark, and what follows it in capitals is the name of the flag. -/
def marksFlag (name : String) (flag : Flag) : Bool :=
  (afterMark? name).any fun key => settingName key == flag.key

/-- The last variable of an environment that sets the flag, as it counts. -/
def lastInEnvironment (environment : List (String × String)) (flag : Flag) : Option Value :=
  (lastWhere (fun e => marksFlag e.1 flag) environment).map fun e => Value.coerceText e.2

/-- The value that a flag gets: what is set by hand, or else what the environment sets, or else what
the file sets, or else true. -/
def winner (fromFile : Settings) (environment : Option (List (String × String)))
    (byHand : Settings) (flag : Flag) : Value :=
  match lastSetting byHand flag with
  | some v => v
  | none =>
    match environment.bind fun environment => lastInEnvironment environment flag with
    | some v => v
    | none => (lastSetting fromFile flag).getD (.bool true)

/-- The variable has our mark and sets no flag. -/
def isIgnored (name : String) : Bool :=
  (afterMark? name).isSome && !Flag.all.any (marksFlag name)

/-! ## The environment -/

lemma mem_all (flag : Flag) : flag ∈ Flag.all := by
  cases flag <;> decide

/-- The setting that a variable of the environment makes. -/
def environmentEntry (e : String × String) : Option (String × Value) :=
  (afterMark? e.1).bind fun key =>
    if Flag.all.any fun flag => flag.key == settingName key then
      some (settingName key, Value.coerceText e.2)
    else none

/-- The name is that of a flag. -/
def isFlagName (name : String) : Bool := Flag.all.any fun flag => flag.key == name

lemma environmentEntry_eq_some {e : String × String} {made : String × Value}
    (h : environmentEntry e = some made) :
    ∃ key, afterMark? e.1 = some key ∧ isFlagName (settingName key) = true ∧
      made = (settingName key, Value.coerceText e.2) := by
  obtain ⟨key, hmark, hkey⟩ := Option.bind_eq_some_iff.1 h
  split at hkey
  · next hset => exact ⟨key, hmark, hset, (Option.some.inj hkey).symm⟩
  · cases hkey

lemma marksFlag_of_afterMark? {name key : String} (h : afterMark? name = some key) (flag : Flag) :
    marksFlag name flag = (flag.key == settingName key) := by
  rw [marksFlag, h, Option.any_some, BEq.comm]

/-- A variable that sets the flag makes a setting of the flag's name. -/
lemma environmentEntry_of_marksFlag {e : String × String} {flag : Flag}
    (h : marksFlag e.1 flag = true) :
    environmentEntry e = some (flag.key, Value.coerceText e.2) := by
  cases hmark : afterMark? e.1 with
  | none => simp [marksFlag, hmark] at h
  | some key =>
    rw [marksFlag_of_afterMark? hmark, beq_iff_eq] at h
    have hset : (Flag.all.any fun other => other.key == settingName key) = true :=
      List.any_eq_true.2 ⟨flag, mem_all flag, beq_iff_eq.2 h⟩
    simp only [environmentEntry, hmark, Option.bind_some, hset, if_true, h]

/-- A variable that does not set the flag makes no setting of the flag's name. -/
lemma name_ne_of_marksFlag_eq_false {e : String × String} {made : String × Value} {flag : Flag}
    (h : marksFlag e.1 flag = false) (hmade : environmentEntry e = some made) :
    made.1 ≠ flag.key := by
  obtain ⟨key, hmark, -, rfl⟩ := environmentEntry_eq_some hmade
  rw [marksFlag_of_afterMark? hmark, beq_eq_false_iff_ne] at h
  exact h.symm

/-- The notes on variables with our mark that set no flag. -/
def ignoredNotes (environment : List (String × String)) : List Note :=
  (environment.filter fun e => isIgnored e.1).map fun e => .environmentIgnored e.1

lemma ignoredNotes_cons (name text : String) (rest : List (String × String)) :
    ignoredNotes ((name, text) :: rest)
      = if isIgnored name then .environmentIgnored name :: ignoredNotes rest
        else ignoredNotes rest := by
  rw [ignoredNotes, List.filter_cons]
  split <;> rfl

/-- Each variable makes a setting, or is noted, or neither. -/
theorem ofEnvironment_eq (environment : List (String × String)) :
    ofEnvironment environment
      = ⟨.ok (environment.filterMap environmentEntry), ignoredNotes environment⟩ := by
  induction environment with
  | nil => rfl
  | cons e rest ih =>
    obtain ⟨name, text⟩ := e
    cases hmark : afterMark? name with
    | none => simp [ofEnvironment, environmentEntry, ignoredNotes, isIgnored, hmark, ih]
    | some key =>
      have hany : Flag.all.any (marksFlag name)
          = Flag.all.any fun flag => flag.key == settingName key :=
        congrArg Flag.all.any (funext (marksFlag_of_afterMark? hmark))
      cases hset : Flag.all.any fun flag => flag.key == settingName key with
      | true =>
        have hentry : environmentEntry (name, text)
            = some (settingName key, Value.coerceText text) := by
          simp only [environmentEntry, hmark, Option.bind_some, hset, if_true]
        have hkept : ¬isIgnored name = true := by
          rw [isIgnored, hany, hset, Bool.not_true, Bool.and_false]
          exact Bool.false_ne_true
        simp only [ofEnvironment, hmark, hset, if_true, ih]
        rw [List.filterMap_cons_some hentry, ignoredNotes_cons, if_neg hkept]
        exact congrArg (Report.mk _) (List.append_nil _)
      | false =>
        have hentry : environmentEntry (name, text) = none := by
          simp only [environmentEntry, hmark, Option.bind_some, hset, Bool.false_eq_true, if_false]
        have hignored : isIgnored name = true := by
          rw [isIgnored, hany, hset, hmark]
          rfl
        simp only [ofEnvironment, hmark, hset, Bool.false_eq_true, if_false, ih]
        rw [List.filterMap_cons_none hentry, ignoredNotes_cons, if_pos hignored]
        rfl

lemma last?_environment (environment : List (String × String)) (flag : Flag) :
    Entries.last? (environment.filterMap environmentEntry) flag.key
      = lastInEnvironment environment flag :=
  Entries.last?_filterMap (fun _ => environmentEntry_of_marksFlag)
    (fun _ _ => name_ne_of_marksFlag_eq_false) environment

lemma last?_inCapitals (settings : Settings) (flag : Flag) :
    Entries.last? (inCapitals settings) flag.key = lastSetting settings flag := by
  rw [inCapitals, ← List.filterMap_eq_map]
  refine Entries.last?_filterMap (fun e he => ?_) (fun e made he hmade => ?_) settings
  · rw [Function.comp_apply, beq_iff_eq.1 he]
  · cases hmade
    exact beq_eq_false_iff_ne.1 he

/-! ## All layers -/

/-- The settings of all layers, the lowest first. -/
def layers (fromFile : Settings) (environment : Option (List (String × String)))
    (byHand : Settings) : Settings :=
  inCapitals fromFile ++ (environment.getD []).filterMap environmentEntry ++ inCapitals byHand

variable {fromFile byHand : Settings} {environment : Option (List (String × String))}

/-- All names are in capitals. -/
lemma name_of_mem_layers {e : String × Value} (h : e ∈ layers fromFile environment byHand) :
    ∃ name, e.1 = settingName name := by
  rw [layers, List.mem_append, List.mem_append] at h
  rcases h with (h | h) | h
  · obtain ⟨e', -, rfl⟩ := List.mem_map.1 h
    exact ⟨e'.1, rfl⟩
  · obtain ⟨e', -, he'⟩ := List.mem_filterMap.1 h
    obtain ⟨key, -, -, rfl⟩ := environmentEntry_eq_some he'
    exact ⟨key, rfl⟩
  · obtain ⟨e', -, rfl⟩ := List.mem_map.1 h
    exact ⟨e'.1, rfl⟩

lemma last?_layers (flag : Flag) :
    (Entries.last? (layers fromFile environment byHand) flag.key).getD (.bool true)
      = winner fromFile environment byHand flag := by
  rw [layers, Entries.last?_append, Entries.last?_append, last?_inCapitals, last?_inCapitals,
    last?_environment, winner]
  cases lastSetting byHand flag with
  | some v => rfl
  | none =>
    cases environment with
    | none => rfl
    | some environment =>
      simp only [Option.getD_some, Option.bind_some, Option.none_or]
      cases lastInEnvironment environment flag <;> rfl

/-- All layers put together make of a flag what the setting that wins makes of it. -/
theorem flagOf_layers (flag : Flag) :
    flagOf (layers fromFile environment byHand) flag
      = (winner fromFile environment byHand flag).asFlag := by
  rw [← last?_layers, flagOf, usedName]
  cases hkey : Entries.last? (layers fromFile environment byHand) flag.key with
  | some v => simp [hkey]
  | none =>
    -- the name of the field is not in capitals
    have hfield : Entries.last? (layers fromFile environment byHand) flag.field = none := by
      rw [Entries.last?, List.lookup_eq_none_iff]
      intro e he
      obtain ⟨name, hname⟩ := name_of_mem_layers (List.mem_reverse.1 he)
      rw [hname]
      exact bne_iff_ne.2 (settingName_ne_field name flag).symm
    simp [hfield, Value.asFlag]

/-- The settings that set no flag, with their names in capitals. -/
def otherSettings (settings : Settings) : Settings :=
  Entries.ofAssignments ((inCapitals settings).filter fun e => !isFlagName e.1)

/-- In all layers put together, a flag is named by its own name alone. -/
lemma beq_usedName_layers {e : String × Value} (h : e ∈ layers fromFile environment byHand)
    (flag : Flag) :
    (e.1 == usedName (layers fromFile environment byHand) flag) = (flag.key == e.1) := by
  rw [usedName]
  cases hkey : Entries.last? (layers fromFile environment byHand) flag.key with
  | some v => rw [Option.isSome_some, if_pos rfl, BEq.comm]
  | none =>
    obtain ⟨name, hname⟩ := name_of_mem_layers h
    have hne : (flag.key == e.1) = false := by
      rw [Entries.last?, List.lookup_eq_none_iff] at hkey
      simpa using hkey e (List.mem_reverse.2 h)
    rw [Option.isSome_none, if_neg Bool.false_ne_true, hne, hname]
    exact beq_eq_false_iff_ne.2 (settingName_ne_field name flag)

/-- No setting of the environment is left over. -/
theorem extraOf_layers :
    extraOf (layers fromFile environment byHand) = otherSettings (fromFile ++ byHand) := by
  have hleft : ∀ e ∈ layers fromFile environment byHand,
      (!Flag.all.any fun flag => e.1 == usedName (layers fromFile environment byHand) flag)
        = !isFlagName e.1 := by
    intro e he
    rw [isFlagName]
    simp only [beq_usedName_layers he]
  have hnone : ((environment.getD []).filterMap environmentEntry).filter
      (fun e => !isFlagName e.1) = [] := by
    rw [List.filter_eq_nil_iff]
    intro e he
    obtain ⟨e', -, he'⟩ := List.mem_filterMap.1 he
    obtain ⟨key, -, hset, rfl⟩ := environmentEntry_eq_some he'
    rw [hset]
    exact Bool.false_ne_true
  rw [extraOf, Entries.filter_ofAssignments fun name =>
      !Flag.all.any fun flag => name == usedName (layers fromFile environment byHand) flag,
    List.filter_congr hleft, otherSettings, layers, List.filter_append, List.filter_append, hnone,
    List.append_nil, inCapitals, inCapitals, inCapitals, List.map_append, List.filter_append]

/-! ## Loading -/

/-- What a configuration file sets: nothing if there is none or if it holds nothing, and otherwise
the entries of its mapping, with their names as texts. -/
inductive Sets : Option File → Settings → Prop
  /-- There is no file. -/
  | none : Sets none []
  /-- The file holds a value that counts as nothing. -/
  | blank {file : File} {text : String} {v : Value} (isText : file.text = some text)
    (reads : Yaml.read text = .ok v) (isBlank : v.truth = .ok false) : Sets (some file) []
  /-- The file holds a mapping. -/
  | mapping {file : File} {text : String} {entries : List (Value × Value)}
    (isText : file.text = some text) (reads : Yaml.read text = .ok (.mapping entries)) :
    Sets (some file) (entries.map fun e => (e.1.shown, e.2))

lemma ofFile_of_sets {file : File} (h : Sets (some file) fromFile) :
    ofFile file = .ok (inCapitals fromFile) := by
  cases h with
  | blank isText reads isBlank =>
    simp only [ofFile, isText, reads, ofDocument, isBlank, bind, Except.bind]
    rfl
  | @mapping _ _ entries isText reads =>
    simp only [ofFile, isText, reads, ofDocument, Value.truth, bind, Except.bind]
    cases entries with
    | nil => rfl
    | cons e rest => simp [inCapitals, Function.comp_def, pure, Except.pure]

/-- Loading makes a configuration of all layers put together, and notes what the environment holds
in vain. -/
theorem load_eq {file : Option File} (h : Sets file fromFile)
    (environment : Option (List (String × String))) (byHand : Settings) :
    load file environment byHand
      = ⟨(ofSettings (layers fromFile environment byHand)).mapError .flagsRejected,
          ignoredNotes (environment.getD [])⟩ := by
  -- a layer that is read hands on its settings, and what it notes comes first
  have hpure (a : Settings) : (pure a : Report Settings) = ⟨.ok a, []⟩ := rfl
  have hlift (a : Settings) : (liftM (Except.ok a : Except Failure Settings) : Report Settings)
      = ⟨.ok a, []⟩ := rfl
  have hbind (a : Settings) (notes : List Note) (next : Settings → Report Config) :
      (⟨.ok a, notes⟩ : Report Settings) >>= next
        = ⟨(next a).outcome, notes ++ (next a).notes⟩ := rfl
  have hnotes : ignoredNotes [] = [] := rfl
  simp only [load, layers]
  cases file with
  | none =>
    cases h
    cases environment with
    | none =>
      simp only [hpure, hbind, Option.getD_none, List.filterMap_nil, hnotes, inCapitals,
        List.map_nil]
      cases ofSettings _ <;> rfl
    | some environment =>
      simp only [ofEnvironment_eq, hpure, hbind, Option.getD_some, inCapitals, List.map_nil]
      cases ofSettings _ <;> exact congrArg (Report.mk _) (List.append_nil _)
  | some file =>
    dsimp only
    rw [ofFile_of_sets h]
    cases environment with
    | none =>
      simp only [hlift, hpure, hbind, Option.getD_none, List.filterMap_nil, hnotes, inCapitals]
      cases ofSettings _ <;> rfl
    | some environment =>
      simp only [hlift, ofEnvironment_eq, hbind, Option.getD_some, inCapitals]
      cases ofSettings _ <;> exact congrArg (Report.mk _) (List.append_nil _)

/-! ## Accepted and rejected -/

/-- A configuration reads every flag from the settings. -/
lemma flags_of_ofSettings_eq_ok {settings : Settings} {c : Config}
    (h : ofSettings settings = .ok c) :
    (∀ flag, flagOf settings flag = .ok (c.flags.get flag)) ∧ c.extra = extraOf settings := by
  have hread := ofSettings_eq_ok_iff.1 ⟨c, h⟩
  rw [ofSettings] at h
  split at h
  · cases h
    refine ⟨fun flag => ?_, rfl⟩
    obtain ⟨b, hb⟩ := hread flag
    have hon : isOn settings flag = b := by rw [isOn, hb]
    rw [hb, ← hon]
    cases flag <;> rfl
  · cases h

lemma eq_problems_of_ofSettings_eq_error {settings : Settings}
    {rejected : List (Flag × FlagProblem)} (h : ofSettings settings = .error rejected) :
    rejected = problems settings := by
  rw [ofSettings] at h
  split at h <;> cases h
  rfl

/-- The flags whose settings are no truth values are reported in order. -/
lemma flags_problems (settings : Settings) :
    (problems settings).map (fun q => q.1)
      = Flag.all.filter fun flag => !(flagOf settings flag).isOk := by
  rw [problems]
  induction Flag.all with
  | nil => rfl
  | cons flag rest ih =>
    cases hread : flagOf settings flag with
    | ok b => simp [problemOf, hread, ih, Except.isOk, Except.toBool]
    | error p => simp [problemOf, hread, ih, Except.isOk, Except.toBool]

lemma flagOf_of_mem_problems {settings : Settings} {q : Flag × FlagProblem}
    (h : q ∈ problems settings) : flagOf settings q.1 = .error q.2 := by
  obtain ⟨flag, -, hq⟩ := List.mem_filterMap.1 h
  rw [problemOf] at hq
  split at hq
  · next p hread =>
    cases hq
    exact hread
  · cases hq

/-- The flags of a configuration, or what is wrong with them, depend on nothing but what the
settings make of the flags. -/
lemma flags_ofSettings_congr {settings others : Settings}
    (h : ∀ flag, flagOf others flag = flagOf settings flag) :
    (ofSettings others).map Config.flags = (ofSettings settings).map Config.flags := by
  have hproblem : problemOf others = problemOf settings := by
    funext flag
    rw [problemOf, problemOf, h]
  have hproblems : problems others = problems settings := by
    rw [problems, problems, hproblem]
  rw [ofSettings, ofSettings, hproblems]
  split
  · simp only [Except.map, isOn, h]
  · rfl

variable {file : Option File}

/-- If the setting that wins is a truth value for every flag, loading makes a configuration. -/
lemma exists_load_eq_ok (h : Sets file fromFile)
    (haccepted : ∀ flag, ∃ b, (winner fromFile environment byHand flag).asFlag = .ok b) :
    ∃ c, (load file environment byHand).outcome = .ok c ∧
      (∀ flag, (winner fromFile environment byHand flag).asFlag = .ok (c.flags.get flag)) ∧
      c.extra = otherSettings (fromFile ++ byHand) := by
  have hread : ∀ flag, ∃ b, flagOf (layers fromFile environment byHand) flag = .ok b := by
    simpa only [flagOf_layers] using haccepted
  obtain ⟨c, hc⟩ := ofSettings_eq_ok_iff.2 hread
  obtain ⟨hflags, hextra⟩ := flags_of_ofSettings_eq_ok hc
  refine ⟨c, ?_, fun flag => ?_, hextra.trans extraOf_layers⟩
  · rw [load_eq h, hc]
    rfl
  · rw [← flagOf_layers, hflags]

/-- If the setting that wins is no truth value for some flag, loading is refused. -/
lemma exists_load_eq_error (h : Sets file fromFile)
    (hnot : ¬∀ flag, ∃ b, (winner fromFile environment byHand flag).asFlag = .ok b) :
    ∃ rejected : List (Flag × FlagProblem),
      (load file environment byHand).outcome = .error (.flagsRejected rejected) ∧
      rejected.map (fun q => q.1) = Flag.all.filter
        (fun flag => !(winner fromFile environment byHand flag).asFlag.isOk) ∧
      ∀ q ∈ rejected, (winner fromFile environment byHand q.1).asFlag = .error q.2 := by
  rw [load_eq h]
  cases hsettings : ofSettings (layers fromFile environment byHand) with
  | ok c =>
    refine absurd (fun flag => ?_) hnot
    exact ⟨_, flagOf_layers flag ▸ (flags_of_ofSettings_eq_ok hsettings).1 flag⟩
  | error rejected =>
    obtain rfl := eq_problems_of_ofSettings_eq_error hsettings
    refine ⟨_, rfl, ?_, fun q hq => ?_⟩
    · rw [flags_problems]
      simp only [flagOf_layers]
    · rw [← flagOf_layers, flagOf_of_mem_problems hq]

/-- Settings that do not win have no part in the flags, or in what is wrong with them. -/
lemma flags_load_congr {file' : Option File} {fromFile' byHand' : Settings}
    {environment' : Option (List (String × String))} (h : Sets file fromFile)
    (h' : Sets file' fromFile') (hwon : ∀ flag,
      winner fromFile' environment' byHand' flag = winner fromFile environment byHand flag) :
    (load file' environment' byHand').outcome.map Config.flags
      = (load file environment byHand).outcome.map Config.flags := by
  have hmap (settings : Settings) :
      ((ofSettings settings).mapError Failure.flagsRejected).map Config.flags
        = ((ofSettings settings).map Config.flags).mapError Failure.flagsRejected := by
    cases ofSettings settings <;> rfl
  rw [load_eq h', load_eq h, hmap, hmap, flags_ofSettings_congr fun flag => ?_]
  rw [flagOf_layers, flagOf_layers, hwon]

/-- What loading makes of layers.

If the setting that wins is a truth value for every flag, loading makes a configuration of these
truth values and of all other settings of the file and by hand. Otherwise it is refused, and names
exactly the flags whose winning settings are no truth values, in order. Settings that lose have no
part in either. The environment gets a warning for every variable with our mark that sets no flag.

Texts of the environment become truth values if they are one of eight words, and are truth values
exactly if they are one of twelve, six for each, without regard to case and to the blanks around
them. Any setting is a truth value exactly if it is this itself, a word for it, or zero or one. -/
theorem load_layers (h : Sets file fromFile) (environment : Option (List (String × String)))
    (byHand : Settings) :
    let won := winner fromFile environment byHand
    ((∀ flag, ∃ b, (won flag).asFlag = .ok b) →
      ∃ c, (load file environment byHand).outcome = .ok c ∧
        (∀ flag, (won flag).asFlag = .ok (c.flags.get flag)) ∧
        c.extra = otherSettings (fromFile ++ byHand)) ∧
    ((¬∀ flag, ∃ b, (won flag).asFlag = .ok b) →
      ∃ rejected : List (Flag × FlagProblem),
        (load file environment byHand).outcome = .error (.flagsRejected rejected) ∧
        rejected.map (fun q => q.1) = Flag.all.filter (fun flag => !(won flag).asFlag.isOk) ∧
        (∀ q ∈ rejected, (won q.1).asFlag = .error q.2) ∧
        (Failure.flagsRejected rejected).family? = some .configuration ∧
        (Failure.flagsRejected rejected).message? = some ("\n".intercalate
          ("Invalid missing-data configuration:" :: rejected.map fun q =>
            "  " ++ q.1.key ++ ": " ++ Failure.problemText q.2))) ∧
    (∀ {file' : Option File} {fromFile' : Settings}, Sets file' fromFile' →
      ∀ (environment' : Option (List (String × String))) (byHand' : Settings),
        (∀ flag, winner fromFile' environment' byHand' flag = won flag) →
        (load file' environment' byHand').outcome.map Config.flags
          = (load file environment byHand).outcome.map Config.flags) ∧
    ((load file environment byHand).notes
        = ((environment.getD []).filter fun e => isIgnored e.1).map
            (fun e => .environmentIgnored e.1) ∧
      ∀ note ∈ (load file environment byHand).notes, note.level = .warning) ∧
    (∀ s, Value.CoercedAs s (Value.coerceText s) ∧
      ((∃ b, (Value.coerceText s).asFlag = .ok b) ↔ lowerAscii (strip s) ∈
        ["0", "off", "f", "false", "n", "no", "1", "on", "t", "true", "y", "yes"]) ∧
      ((Value.coerceText s).asFlag = .ok false ↔
        lowerAscii (strip s) ∈ ["0", "off", "f", "false", "n", "no"]) ∧
      ((Value.coerceText s).asFlag = .ok true ↔
        lowerAscii (strip s) ∈ ["1", "on", "t", "true", "y", "yes"])) ∧
    ∀ v : Value, (∀ b, v.asFlag = .ok b ↔ v.IsFlag b) ∧
      (v.asFlag = .error .unreadable ↔ v.IsUnclear) := by
  intro won
  have hnotes : (load file environment byHand).notes
      = ((environment.getD []).filter fun e => isIgnored e.1).map
          fun e => .environmentIgnored e.1 := by
    rw [load_eq h]
    rfl
  refine ⟨exists_load_eq_ok h, fun hnot => ?_,
    fun h' environment' byHand' hwon => flags_load_congr h h' hwon,
    ⟨hnotes, fun note hnote => ?_⟩, fun s => ?_,
    fun v => ⟨fun b => Value.asFlag_eq_ok_iff, Value.asFlag_eq_unreadable_iff⟩⟩
  · obtain ⟨rejected, hrejected, hflags, hreasons⟩ := exists_load_eq_error h hnot
    exact ⟨rejected, hrejected, hflags, hreasons, rfl, rfl⟩
  · rw [hnotes] at hnote
    obtain ⟨e, -, rfl⟩ := List.mem_map.1 hnote
    rfl
  · refine ⟨Value.coercedAs_coerceText s, ?_, Value.asFlag_coerceText_eq_ok_iff,
      Value.asFlag_coerceText_eq_ok_iff⟩
    simp only [Value.asFlag_coerceText_eq_ok_iff, Bool.exists_bool, ← List.mem_append]
    rfl

/-- A document that sets two flags, the first by a word that is no truth value. -/
def twoFlags : String := "fill_value_is_missing: maybe\nInvalid_Data_Is_Missing: no\nnote: 1\n"

/-- An environment that sets the first flag as well, by a word for false, and no other. -/
def firstFlag : List (String × String) :=
  [("CFMISSING_Fill_Value_Is_Missing", " Off "), ("CFMISSING_FILL", "1")]

/-- A setting of the third flag. -/
def thirdFlag : Settings := [("missing_data_is_missing", .int 1)]

/-- The entries of a mapping. -/
def entries? : Value → Option (List (Value × Value))
  | .mapping entries => some entries
  | _ => none

/-- The word that is no truth value loses, and does no harm. -/
theorem load_layers_of_twoFlags :
    (∃ c, (load (some ⟨"flags.yaml", some twoFlags⟩) (some firstFlag) thirdFlag).outcome = .ok c ∧
        c.flags = ⟨false, false, true⟩) ∧
      (load (some ⟨"flags.yaml", some twoFlags⟩) (some firstFlag) thirdFlag).notes
        = [.environmentIgnored "CFMISSING_FILL"] ∧
      (Value.coerceText " Off ").asFlag = .ok false := by
  have hok {ε α : Type} {e : Except ε α} {a : α} (h : e.toOption = some a) : e = .ok a := by
    cases e <;> cases h
    rfl
  have hdocument : ((Yaml.read twoFlags).toOption.bind entries?).map (fun entries =>
      Flag.all.map fun flag =>
        (winner (entries.map fun e => (e.1.shown, e.2)) (some firstFlag) thirdFlag
          flag).asFlag.toOption) = some [some false, some false, some true] := by
    decide +kernel
  obtain ⟨entries, hentries, hwon⟩ := Option.map_eq_some_iff.1 hdocument
  obtain ⟨v, hv, hmapping⟩ := Option.bind_eq_some_iff.1 hentries
  have hread : Yaml.read twoFlags = .ok (.mapping entries) := by
    cases v <;> cases hmapping
    exact hok hv
  simp only [Flag.all, List.map_cons, List.map_nil, List.cons.injEq, and_true] at hwon
  obtain ⟨hfirst, hsecond, hthird⟩ := hwon
  have hsets : Sets (some ⟨"flags.yaml", some twoFlags⟩)
      (entries.map fun e => (e.1.shown, e.2)) := .mapping rfl hread
  have hload := load_layers hsets (some firstFlag) thirdFlag
  obtain ⟨c, hc, hflags, -⟩ := hload.1 fun flag => by
    cases flag with
    | fillValue => exact ⟨_, hok hfirst⟩
    | invalidData => exact ⟨_, hok hsecond⟩
    | missingData => exact ⟨_, hok hthird⟩
  have hfirst' := (hflags .fillValue).symm.trans (hok hfirst)
  have hsecond' := (hflags .invalidData).symm.trans (hok hsecond)
  have hthird' := (hflags .missingData).symm.trans (hok hthird)
  obtain ⟨⟨fill, invalid, missing⟩, extra⟩ := c
  cases hfirst'
  cases hsecond'
  cases hthird'
  exact ⟨⟨_, hc, rfl⟩, hload.2.2.2.1.1.trans (by decide +kernel),
    (hload.2.2.2.2.1 " Off ").2.2.1.2 (by decide +kernel)⟩

end Config

end MissingSamples
