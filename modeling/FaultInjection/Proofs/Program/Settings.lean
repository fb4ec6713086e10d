import FaultInjection.Proofs.Experiment.Documents
import FaultInjection.Proofs.Results
import FaultInjection.Proofs.Text.Utf8
import FaultInjection.Settings

/-!
# Where settings come from

An environment holds texts, and octets that are no text are as good as nothing
(`Environment.Holds`).  If it names an experiment file, that file alone decides on the experiment,
and whatever the variables of experiments hold is not looked at.  If it names none, the variables
decide, and no file is looked at (`Settings.Precedence`, `Settings.load_precedence`).
-/

namespace FaultInjection

open Text

/-! ## Variables and files that are texts -/

/-- **A variable holds a text** if it is set to the octets of the text. -/
def Environment.Holds (env : Environment) (name text : String) : Prop :=
  env name = some (encode text)

section

variable {env env' : Environment} {files : Files} {name path text : String} {fault : FileFault}

theorem Environment.texts_eq_some_iff : env.texts name = some text ↔ env.Holds name text := by
  rw [texts, Option.bind_eq_some_iff]
  constructor
  · rintro ⟨octets, hoctets, htext⟩
    rw [Holds, hoctets, decode?_eq_some_iff.mp htext]
  · intro h
    exact ⟨encode text, h, decode?_eq_some_iff.mpr rfl⟩

/-- A variable counts as unset exactly if it holds no text. -/
theorem Environment.texts_eq_none_iff :
    env.texts name = none ↔ ∀ text, ¬ env.Holds name text := by
  simp only [Option.eq_none_iff_forall_ne_some, ne_eq, texts_eq_some_iff]

theorem Environment.texts_congr (h : ∀ text, env.Holds name text ↔ env'.Holds name text) :
    env.texts name = env'.texts name := by
  ext text
  rw [texts_eq_some_iff, texts_eq_some_iff, h]

/-- A file is read as the text whose octets it holds. -/
theorem Files.read_eq_ok_iff : files.read path = .ok text ↔ files path = .ok (encode text) := by
  unfold read
  cases files path with
  | error fault => simp
  | ok octets =>
      rw [Except.ok.injEq, ← decode?_eq_some_iff]
      cases htext : decode? octets <;> simp [htext]

/-- It is not read if there is no such file, or if it holds no text. -/
theorem Files.read_eq_error_iff : files.read path = .error fault ↔ files path = .error fault ∨
    ∃ octets, files path = .ok octets ∧ (∀ text, octets ≠ encode text) ∧ fault = .notText := by
  unfold read
  cases files path with
  | error fault => simp
  | ok octets =>
      simp only [ne_eq, ← decode?_eq_some_iff]
      cases htext : decode? octets <;> simp [htext, eq_comm (a := fault)]

end

/-! ## Experiments from files -/

namespace Experiment

variable {files : Files} {path : String} {e : Experiment} {error : ConfigError}

/-- **What a file is blamed for**: it cannot be read, it holds no text, or its text describes no
experiment. -/
inductive Unfit (files : Files) (path : String) : ConfigError → Prop
  | unreadable {fault : FileFault} : files path = .error fault →
      Unfit files path (.unreadable path fault)
  | notText {octets : List UInt8} : files path = .ok octets → (∀ text, octets ≠ encode text) →
      Unfit files path (.unreadable path .notText)
  | document {text : String} {cause : Yaml.DecodeError} : files path = .ok (encode text) →
      ofText text = .error cause → Unfit files path (.document path cause.message)

/-- An experiment is that of a file if the text of the file describes it. -/
theorem ofFile_eq_ok_iff : ofFile files path = .ok e ↔
    ∃ text, files path = .ok (encode text) ∧ ofText text = .ok e := by
  simp only [← Files.read_eq_ok_iff]
  unfold ofFile
  cases files.read path with
  | error fault => simp
  | ok text => simp [mapError_eq_ok_iff]

theorem ofFile_eq_error_iff : ofFile files path = .error error ↔ Unfit files path error := by
  unfold ofFile
  constructor
  · intro h
    cases hread : files.read path with
    | error fault =>
        simp only [hread, Except.error.injEq] at h
        subst h
        rcases Files.read_eq_error_iff.mp hread with hfile | ⟨octets, hfile, hoctets, rfl⟩
        · exact .unreadable hfile
        · exact .notText hfile hoctets
    | ok text =>
        simp only [hread] at h
        obtain ⟨cause, hcause, rfl⟩ := mapError_eq_error_iff.mp h
        exact .document (Files.read_eq_ok_iff.mp hread) hcause
  · intro h
    cases h with
    | unreadable hfile => rw [Files.read_eq_error_iff.mpr (Or.inl hfile)]
    | notText hfile hoctets =>
        rw [Files.read_eq_error_iff.mpr (Or.inr ⟨_, hfile, hoctets, rfl⟩)]
    | document hfile hcause => simp only [Files.read_eq_ok_iff.mpr hfile, hcause, Except.mapError]

end Experiment

/-! ## Settings -/

namespace Settings

variable {env : Environment} {files : Files} {path : String}

/-- With an experiment file the experiment is that of the file. -/
theorem load_of_file (h : env.Holds "EXPERIMENT_FILE" path) : load env files =
    (Experiment.ofFile files path).map fun e => ⟨env.texts "KUBECONFIG_PATH", e⟩ := by
  rw [load, Environment.texts_eq_some_iff.mpr h]
  dsimp only
  cases Experiment.ofFile files path <;> rfl

/-- Without one it is that of the variables. -/
theorem load_of_no_file (h : ∀ path, ¬ env.Holds "EXPERIMENT_FILE" path) : load env files =
    (Experiment.ofVariables env.texts).map fun e => ⟨env.texts "KUBECONFIG_PATH", e⟩ := by
  rw [load, Environment.texts_eq_none_iff.mpr h]
  dsimp only
  cases Experiment.ofVariables env.texts <;> rfl

/-- **The file wins.**  Where the settings of an environment come from. -/
structure Precedence (env : Environment) (files : Files) : Prop where
  /-- Environments that name the same experiment file, and the same configuration of the cluster if
  any, have the same settings or the same error, whatever their other variables hold, -/
  alike : ∀ path, env.Holds "EXPERIMENT_FILE" path →
    ∀ env' files', env'.Holds "EXPERIMENT_FILE" path →
    (∀ text, env'.Holds "KUBECONFIG_PATH" text ↔ env.Holds "KUBECONFIG_PATH" text) →
    files' path = files path → load env' files' = load env files
  /-- namely the experiment that the text of the file describes, -/
  described : ∀ path, env.Holds "EXPERIMENT_FILE" path → ∀ settings,
    load env files = .ok settings ↔
      (∀ text, settings.kubeconfig = some text ↔ env.Holds "KUBECONFIG_PATH" text) ∧
      ∃ text, files path = .ok (encode text) ∧ Experiment.ofText text = .ok settings.experiment
  /-- or the error for which the file is blamed. -/
  refused : ∀ path, env.Holds "EXPERIMENT_FILE" path → ∀ error,
    load env files = .error error ↔ Experiment.Unfit files path error
  /-- Environments that name no such file have the settings that their variables describe, of which
  those that hold no text are unset, and no file makes a difference. -/
  unnamed : (∀ path, ¬ env.Holds "EXPERIMENT_FILE" path) → ∃ vars : Experiment.Variables,
    (∀ name text, vars name = some text ↔ env.Holds name text) ∧
    ∀ files', load env files' =
      (Experiment.ofVariables vars).map fun e => ⟨vars "KUBECONFIG_PATH", e⟩

/-- **Settings** come from the file that is named, or else from the variables. -/
theorem load_precedence (env : Environment) (files : Files) : Precedence env files where
  alike := by
    intro path hpath env' files' hpath' hkubeconfig hfile
    have hread : Experiment.ofFile files' path = Experiment.ofFile files path := by
      simp only [Experiment.ofFile, Files.read, hfile]
    rw [load_of_file hpath, load_of_file hpath', hread, Environment.texts_congr hkubeconfig]
  described := by
    intro path hpath settings
    obtain ⟨kubeconfig, experiment⟩ := settings
    simp only [load_of_file hpath, map_eq_ok_iff, Experiment.ofFile_eq_ok_iff,
      ← Environment.texts_eq_some_iff]
    constructor
    · rintro ⟨e, hfile, hsame⟩
      cases hsame
      exact ⟨fun _ => Iff.rfl, hfile⟩
    · rintro ⟨hkubeconfig, hfile⟩
      obtain rfl : kubeconfig = env.texts "KUBECONFIG_PATH" := Option.ext hkubeconfig
      exact ⟨experiment, hfile, rfl⟩
  refused := by
    intro path hpath error
    rw [load_of_file hpath, ← Experiment.ofFile_eq_error_iff]
    cases Experiment.ofFile files path <;> simp [Except.map]
  unnamed := by
    intro hno
    exact ⟨env.texts, fun name text => Environment.texts_eq_some_iff, fun _ => load_of_no_file hno⟩

/-- Octets that are no text are no number that is wrong. -/
example : errorOf? (load (fun name => if name = "TARGET_PORT" then some [0xC3, 0x28] else none)
    fun _ => .error .missing) = none := by decide +kernel

/-- An environment with an experiment file and another variable. -/
def withFile (name text : String) : Environment := fun found =>
  if found = "EXPERIMENT_FILE" then some (encode "e.yaml")
  else if found = name then some (encode text) else none

/-- The file with an experiment, and no other one. -/
def sampleFiles : Files := fun path =>
  if path = "e.yaml" then .ok (encode Experiment.sampleText) else .error .missing

/-- A number and a protocol that are none do no harm where a file is named. -/
theorem load_sampleFiles : ∃ settings, settings.experiment.Same Experiment.sample ∧
    load (withFile "AVERAGE_DELAY_MS" "soon") sampleFiles = .ok settings ∧
    load (withFile "FAULT_PROTOCOL" "tcp") sampleFiles = .ok settings := by
  obtain ⟨found, hsame, hfound⟩ := Experiment.ofDocument_of_tells
    (congrArg Yaml.Document.root Experiment.ofText_sampleText)
    (congrArg Yaml.Document.complete Experiment.ofText_sampleText)
    Experiment.tellsOf_sampleEntries
  have hsettings := load_precedence (withFile "AVERAGE_DELAY_MS" "soon") sampleFiles
  have hload : load (withFile "AVERAGE_DELAY_MS" "soon") sampleFiles = .ok ⟨none, found⟩ :=
    (hsettings.described "e.yaml" rfl _).mpr
      ⟨fun text => by simp [Environment.Holds, withFile], Experiment.sampleText, rfl, hfound⟩
  refine ⟨⟨none, found⟩, hsame, hload, ?_⟩
  rw [← hload]
  exact hsettings.alike "e.yaml" rfl _ _ rfl
    (fun text => by simp [Environment.Holds, withFile]) rfl

end Settings

end FaultInjection
