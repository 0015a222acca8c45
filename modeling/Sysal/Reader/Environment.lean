import Sysal.Parser.Execution

/-!
# The environment on its way into the context

`read_env_vars` joins the variables that are set into one text of lines, and `parse_environment` takes
that text apart again.  Nothing is escaped, so a value with a newline, or with blanks at its end, does
not come back (`environmentEntries_iff`).
-/

namespace Sysal

open ExecutionParser

/-! ### The reader -/

/-- The variables that are collected. -/
def environmentNames : List Bytes :=
  [utf8 "CUDA_VISIBLE_DEVICES", utf8 "HIP_VISIBLE_DEVICES", utf8 "ONEAPI_DEVICE_SELECTOR",
   utf8 "OMP_NUM_THREADS", utf8 "MLU_VISIBLE_DEVICES", utf8 "container",
   utf8 "KUBERNETES_SERVICE_HOST", utf8 "ROCR_VISIBLE_DEVICES", utf8 "CUDA_DEVICE_ORDER",
   utf8 "ZE_AFFINITY_MASK"]

/-- One variable put behind the payload. -/
def addEnvVar (getenv : Bytes → Option Bytes) (payload name : Bytes) : Bytes :=
  match getenv name with
  | some value => (if payload = [] then [] else payload ++ [10]) ++ name ++ 61 :: value
  | none => payload

/-- The payload `read_env_vars` builds. -/
def envPayload (getenv : Bytes → Option Bytes) (names : List Bytes) : Bytes :=
  names.foldl (addEnvVar getenv) []

/-- `read_env_vars`: the record it adds. -/
def readEnvVars (getenv : Bytes → Option Bytes) (names : List Bytes) : RawEvidence :=
  let payload := envPayload getenv names
  ⟨.environment, utf8 "env", payload, if payload = [] then .notCollected else .success, none, none⟩

/-! ### The variables that are set -/

/-- The variables that are set, with their values, in the order they are collected. -/
def setVariables (getenv : Bytes → Option Bytes) (names : List Bytes) : List (Bytes × Bytes) :=
  names.filterMap fun name => (getenv name).map fun value => (name, value)

/-- The line of a variable. -/
def envLine (entry : Bytes × Bytes) : Bytes := entry.1 ++ 61 :: entry.2

/-- A name the lines can be taken apart at: it is not empty and has neither blanks nor an equals sign. -/
def IsEnvName (name : Bytes) : Prop := name ≠ [] ∧ ∀ c ∈ name, isSpace c = false ∧ c ≠ 61

/-- A value that comes back: one line, without blanks at its end. -/
def OneLine (value : Bytes) : Prop := 10 ∉ value ∧ ∀ c, value.getLast? = some c → isSpace c = false

theorem isEnvName_environmentNames : ∀ name ∈ environmentNames, IsEnvName name := by
  intro name hname
  have hall : ∀ name ∈ environmentNames, name ≠ [] ∧ ∀ c ∈ name, isSpace c = false ∧ c ≠ 61 := by
    decide +kernel
  exact hall name hname

/-- A joined text is its first piece, and every other one behind a separator. -/
theorem intercalate_cons_flatMap {α : Type*} (sep : α) (l : List α) (ls : List (List α)) :
    [sep].intercalate (l :: ls) = l ++ ls.flatMap (sep :: ·) := by
  induction ls generalizing l with
  | nil => simp
  | cons l' ls ih =>
      rw [List.intercalate_cons_cons, ih]
      simp

/-- The payload is the lines of the variables, joined by newlines. -/
theorem envPayload_eq (getenv : Bytes → Option Bytes) (names : List Bytes) :
    envPayload getenv names = [10].intercalate ((setVariables getenv names).map envLine) := by
  -- behind a text that is not empty every line follows a newline
  have hbehind : ∀ (names : List Bytes) (payload : Bytes), payload ≠ [] →
      names.foldl (addEnvVar getenv) payload =
        payload ++ ((setVariables getenv names).map envLine).flatMap (10 :: ·) := by
    intro names
    induction names with
    | nil =>
        intro payload _
        simp [setVariables]
    | cons name names ih =>
        intro payload hne
        rw [List.foldl_cons, addEnvVar]
        rcases hget : getenv name with _ | value
        · rw [ih payload hne]
          simp [setVariables, hget]
        · dsimp only
          rw [if_neg hne, ih _ (by simp)]
          simp [setVariables, hget, envLine]
  rw [envPayload]
  induction names with
  | nil => rfl
  | cons name names ih =>
      rw [List.foldl_cons, addEnvVar]
      rcases hget : getenv name with _ | value
      · dsimp only
        rw [ih]
        simp [setVariables, hget]
      · dsimp only
        rw [if_pos rfl, hbehind _ _ (by simp)]
        simp only [setVariables, List.filterMap_cons, hget, Option.map_some, List.map_cons]
        rw [intercalate_cons_flatMap]
        rfl

/-! ### The lines taken apart again -/

/-- Blanks are removed at the ends only. -/
theorem trim_eq_self {s : Bytes} (hfirst : ∀ c, s.head? = some c → isSpace c = false)
    (hlast : ∀ c, s.getLast? = some c → isSpace c = false) : trim s = s := by
  have hdrop : s.dropWhile isSpace = s := by
    rcases s with _ | ⟨c, s⟩
    · rfl
    · rw [List.dropWhile_cons_of_neg]
      simp [hfirst c rfl]
  rw [trim, hdrop, List.rdropWhile_eq_self_iff]
  intro hne
  rw [hlast _ (List.getLast?_eq_some_getLast hne)]
  exact Bool.false_ne_true

/-- **The line of a variable** with a one-line value comes back as its entry. -/
theorem parseEnvironmentLine_envLine {name value : Bytes} (hname : IsEnvName name)
    (hvalue : OneLine value) : parseEnvironmentLine (envLine (name, value)) = some (name, value) := by
  have htrim : trim (envLine (name, value)) = envLine (name, value) := by
    refine trim_eq_self ?_ ?_
    · intro c hc
      obtain ⟨d, t, rfl⟩ := List.exists_cons_of_ne_nil hname.1
      rw [← Option.some.inj hc]
      exact (hname.2 d List.mem_cons_self).1
    · intro c hc
      rw [envLine] at hc
      rcases List.eq_nil_or_concat value with rfl | ⟨init, last, rfl⟩
      · rw [List.getLast?_concat] at hc
        rw [← Option.some.inj hc]
        decide
      · rw [List.concat_eq_append] at hc hvalue
        rw [← List.cons_append, ← List.append_assoc, List.getLast?_concat] at hc
        rw [← Option.some.inj hc]
        exact hvalue.2 last List.getLast?_concat
  have hne : envLine (name, value) ≠ [] := by simp [envLine]
  rw [parseEnvironmentLine, htrim, if_neg hne, envLine, Bytes.cut, if_pos (by simp)]
  have hno : ∀ c ∈ name, decide (c ≠ 61) = true := fun c hc => decide_eq_true (hname.2 c hc).2
  rw [List.takeWhile_append_of_pos hno, List.dropWhile_append_of_pos hno]
  simp

/-- **Entries are one line**: no parsed value has a newline, or blanks at its end. -/
theorem oneLine_of_parsed {payload : Bytes} {entry : Bytes × Bytes}
    (h : entry ∈ (split payload 10).filterMap parseEnvironmentLine) : OneLine entry.2 := by
  obtain ⟨line, hline, hparse⟩ := List.mem_filterMap.mp h
  rw [parseEnvironmentLine] at hparse
  split at hparse
  · cases hparse
  obtain ⟨hsplit, -⟩ := cut_eq_some hparse
  constructor
  · intro hmem
    have hin : (10 : UInt8) ∈ line := (trim_isInfix line).mem (by rw [hsplit]; simp [hmem])
    rw [split, List.splitOn_eq_splitOnP] at hline
    have := not_separator_of_mem_splitOnP hline 10 hin
    simp at this
  · intro c hc
    obtain ⟨init, hinit⟩ := List.getLast?_eq_some_iff.mp hc
    refine trim_eq_concat (s := line) (t := entry.1 ++ 61 :: init) ?_
    rw [hsplit, hinit]
    simp

theorem parsed_envPayload {getenv : Bytes → Option Bytes} {names : List Bytes}
    (hnames : ∀ name ∈ names, IsEnvName name)
    (hvalues : ∀ entry ∈ setVariables getenv names, OneLine entry.2) :
    (split (envPayload getenv names) 10).filterMap parseEnvironmentLine =
      setVariables getenv names := by
  have hentry : ∀ entry ∈ setVariables getenv names,
      parseEnvironmentLine (envLine entry) = some entry := by
    intro entry hmem
    obtain ⟨name, hname, hentry⟩ := List.mem_filterMap.mp hmem
    obtain ⟨value, -, rfl⟩ := Option.map_eq_some_iff.mp hentry
    exact parseEnvironmentLine_envLine (hnames name hname) (hvalues _ hmem)
  have hline : ∀ l ∈ (setVariables getenv names).map envLine, (10 : UInt8) ∉ l := by
    intro l hl hmem
    obtain ⟨entry, hentry', rfl⟩ := List.mem_map.mp hl
    obtain ⟨name, hname, hset⟩ := List.mem_filterMap.mp hentry'
    obtain ⟨value, -, rfl⟩ := Option.map_eq_some_iff.mp hset
    rcases List.mem_append.mp hmem with hmem | hmem
    · have := ((hnames name hname).2 10 hmem).1
      cases this
    · rcases List.mem_cons.mp hmem with hmem | hmem
      · cases hmem
      · exact (hvalues _ hentry').1 hmem
  rw [envPayload_eq]
  by_cases hnil : setVariables getenv names = []
  · rw [hnil]
    decide
  · rw [split, List.splitOn_intercalate 10 hline (by simpa using hnil), List.filterMap_map]
    conv_rhs => rw [← List.filterMap_some (l := setVariables getenv names)]
    exact List.filterMap_congr hentry

/-- **The environment comes back** exactly when every value is one line without blanks at its end. -/
theorem environmentEntries_iff (getenv : Bytes → Option Bytes) :
    (parseEnvironment (envPayload getenv environmentNames) {}).environment.entries =
        setVariables getenv environmentNames ↔
      ∀ name ∈ environmentNames, ∀ value, getenv name = some value → OneLine value := by
  have hset : (∀ name ∈ environmentNames, ∀ value, getenv name = some value → OneLine value) ↔
      ∀ entry ∈ setVariables getenv environmentNames, OneLine entry.2 := by
    constructor
    · intro h entry hentry
      obtain ⟨name, hname, hentry⟩ := List.mem_filterMap.mp hentry
      obtain ⟨value, hvalue, rfl⟩ := Option.map_eq_some_iff.mp hentry
      exact h name hname value hvalue
    · intro h name hname value hvalue
      exact h (name, value) (List.mem_filterMap.mpr ⟨name, hname, by rw [hvalue]; rfl⟩)
  rw [hset]
  show [] ++ (split (envPayload getenv environmentNames) 10).filterMap parseEnvironmentLine = _ ↔ _
  rw [List.nil_append]
  constructor
  · intro heq entry hentry
    rw [← heq] at hentry
    exact oneLine_of_parsed hentry
  · exact parsed_envPayload isEnvName_environmentNames

/-- A thread count with a second line. -/
def injectedVisibility (name : Bytes) : Option Bytes :=
  if name = utf8 "OMP_NUM_THREADS" then some (utf8 "1\nCUDA_VISIBLE_DEVICES=0") else none

/-- The second line of a value becomes an entry of a variable that is not set. -/
theorem environmentEntries_injected :
    (utf8 "CUDA_VISIBLE_DEVICES", utf8 "0") ∈
        (parseEnvironment (envPayload injectedVisibility environmentNames) {}).environment.entries ∧
      injectedVisibility (utf8 "CUDA_VISIBLE_DEVICES") = none ∧
      ¬ ∀ getenv, (parseEnvironment (envPayload getenv environmentNames) {}).environment.entries =
        setVariables getenv environmentNames :=
  ⟨by decide +kernel, by decide +kernel, fun h => absurd (h injectedVisibility) (by decide +kernel)⟩

end Sysal
