import Mathlib.Logic.Relation
import Sysal.Foundation.FsPath
import Sysal.Reader.FileUtils
import Sysal.Reader.Filesystems

/-!
# The statistics of one mount

`filesystem_stats.cpp`: a mount point is reached one element at a time, each by a descriptor that is asked
for its file system before the next element is looked up beneath it.  So an automount is noticed and not
entered, and no symbolic link is followed.

The operating system answers as it likes.  A descriptor is a fresh value at every opening, so that mounts
that come and go in between are covered.

* `Step`, `Reached`: how a descriptor may be followed, and where one gets;
* `walk_answer`, `walk_skip`: the outcome of a walk is that of where it gets;
* `walk_calls`: what is asked, and of which descriptors;
* `queried_readFilesystemStatistics`: the three of them for a mount.
-/

namespace Sysal

namespace FilesystemStats

open FilesystemsReader

variable {D : Type*}

/-! ### The operating system -/

/-- What `fstat` says of the identity of a file. -/
structure Identity where
  mode : UInt32
  device : UInt64
  deriving DecidableEq

/-- `S_ISLNK`. -/
def Identity.isLink (identity : Identity) : Bool := identity.mode &&& 0o170000 = 0o120000

/-- `major` and `minor` of a device. -/
def Identity.deviceNumber (identity : Identity) : DeviceNumber :=
  let part (mask shift : UInt64) : UInt64 := (identity.device &&& mask) >>> shift
  { major := (part 0xfff00 8 ||| part 0xfffff00000000000 32).toUInt32
    minor := (part 0xff 0 ||| part 0xffffff00000 12).toUInt32 }

/-- The answers of the system calls: a value, or the number of an error. -/
structure Os (D : Type*) where
  openRoot : Except ℕ D
  /-- `openat` with `O_PATH | O_NOFOLLOW`, and with `O_DIRECTORY` if the flag says so. -/
  openAt : D → Bytes → Bool → Except ℕ D
  /-- `f_type` of `fstatfs`. -/
  filesystemType : D → Except ℕ ℤ
  identity : D → Except ℕ Identity
  statvfs : D → Except ℕ Statvfs

/-- The system calls, and what came out of those that open a file. -/
inductive Call (D : Type*) where
  | openRoot (result : Except ℕ D)
  | openAt (directory : D) (component : Bytes) (asDirectory : Bool) (result : Except ℕ D)
  | filesystemType (fd : D)
  | identity (fd : D)
  | statvfs (fd : D)
  | close (fd : D)

/-- `AUTOFS_SUPER_MAGIC`. -/
def autofsSuperMagic : ℤ := 0x0187

/-! ### The program -/

/-- `queryable`: what a descriptor that may not be followed leaves behind. -/
def queryable (os : Os D) (fd : D) : Option FilesystemStatistics :=
  match os.filesystemType fd with
  | .error error => some { failure := some (fileFailure error) }
  | .ok kind =>
      if kind = autofsSuperMagic then
        some { skip := some .notApplicable, note := "Automount filesystem not queried" }
      else none

/-- The end of the walk. -/
def finish (os : Os D) (mount : StorageMount) (directory : D) :
    FilesystemStatistics × List (Call D) :=
  match queryable os directory with
  | some result => (result, [.filesystemType directory, .close directory])
  | none =>
      match os.identity directory with
      | .error error =>
          ({ failure := some (fileFailure error) },
            [.filesystemType directory, .identity directory, .close directory])
      | .ok identity =>
          if identity.isLink then
            ({ failure := some .unsupported },
              [.filesystemType directory, .identity directory, .close directory])
          else if identity.deviceNumber ≠ mount.deviceNumber then
            ({ failure := some .notPresent
               note := "Mount changed or is covered; statistics not associated" },
              [.filesystemType directory, .identity directory, .close directory])
          else
            (match os.statvfs directory with
              | .error error => { failure := some (fileFailure error) }
              | .ok values => { values := values },
              [.filesystemType directory, .identity directory, .statvfs directory,
                .close directory])

/-- The loop over the elements, from a descriptor. -/
def walk (os : Os D) (mount : StorageMount) (directory : D) :
    List Bytes → FilesystemStatistics × List (Call D)
  | [] => finish os mount directory
  | component :: rest =>
      if component = FsPath.dot ∨ component = FsPath.dotDot then
        ({ failure := some .unsupported }, [.close directory])
      else
        match queryable os directory with
        | some result => (result, [.filesystemType directory, .close directory])
        | none =>
            let asDirectory := decide (rest ≠ [])
            match os.openAt directory component asDirectory with
            | .error error =>
                ({ failure := some (fileFailure error) },
                  [.filesystemType directory,
                    .openAt directory component asDirectory (.error error), .close directory])
            | .ok next =>
                let (result, calls) := walk os mount next rest
                (result, .filesystemType directory ::
                  .openAt directory component asDirectory (.ok next) :: .close directory :: calls)

/-- `read_filesystem_statistics`, with the system calls in their order. -/
def readFilesystemStatistics (os : Os D) (mount : StorageMount) :
    FilesystemStatistics × List (Call D) :=
  if ¬FsPath.isAbsolute mount.path ∨ 0 ∈ mount.path then ({ failure := some .unsupported }, [])
  else
    match os.openRoot with
    | .error error => ({ failure := some (fileFailure error) }, [.openRoot (.error error)])
    | .ok root =>
        let (result, calls) := walk os mount root (FsPath.relativeElements mount.path)
        (result, .openRoot (.ok root) :: calls)

/-! ### Where a walk gets -/

variable (os : Os D)

/-- A descriptor that may be followed: its file system answers and is no automount. -/
def Plain (fd : D) : Prop := ∃ kind, os.filesystemType fd = .ok kind ∧ kind ≠ autofsSuperMagic

/-- A descriptor that must not be followed. -/
def Automount (fd : D) : Prop := os.filesystemType fd = .ok autofsSuperMagic

/-- An element that names a file, not a place in the tree. -/
def Proper (component : Bytes) : Prop := component ≠ FsPath.dot ∧ component ≠ FsPath.dotDot

/-- One step of a walk: a descriptor and the elements that are left. -/
inductive Step : D × List Bytes → D × List Bytes → Prop
  | into {fd next : D} {component : Bytes} {rest : List Bytes} (proper : Proper component)
      (plain : Plain os fd) (opened : os.openAt fd component (decide (rest ≠ [])) = .ok next) :
      Step (fd, component :: rest) (next, rest)

/-- What can be reached from a position. -/
abbrev Reaches : D × List Bytes → D × List Bytes → Prop := Relation.ReflTransGen (Step os)

/-- What can be reached on the way to a mount point. -/
def Reached (mount : StorageMount) (position : D × List Bytes) : Prop :=
  FsPath.isAbsolute mount.path ∧ 0 ∉ mount.path ∧
    ∃ root, os.openRoot = .ok root ∧ Reaches os (root, FsPath.relativeElements mount.path) position

/-- The file of a descriptor is that of a mount: no symbolic link, and on the device. -/
def Mounted (mount : StorageMount) (fd : D) : Prop :=
  ∃ identity, os.identity fd = .ok identity ∧ ¬identity.isLink ∧
    identity.deviceNumber = mount.deviceNumber

variable {os}

theorem queryable_eq_none_iff {fd : D} : queryable os fd = none ↔ Plain os fd := by
  rw [queryable, Plain]
  cases hkind : os.filesystemType fd with
  | error error => simp
  | ok kind => simp [Except.ok.injEq]

/-- A descriptor that is not followed is an automount, or it does not answer. -/
theorem queryable_eq_some {fd : D} {result : FilesystemStatistics}
    (h : queryable os fd = some result) :
    (Automount os fd ∧ result =
      { skip := some .notApplicable, note := "Automount filesystem not queried" }) ∨
      ∃ error, os.filesystemType fd = .error error ∧
        result = { failure := some (fileFailure error) } := by
  rw [queryable] at h
  cases hkind : os.filesystemType fd with
  | error error =>
      rw [hkind] at h
      exact Or.inr ⟨error, rfl, (Option.some.inj h).symm⟩
  | ok kind =>
      rw [hkind] at h
      dsimp only at h
      split at h
      · rename_i hauto
        exact Or.inl ⟨hkind.trans (congrArg Except.ok hauto), (Option.some.inj h).symm⟩
      · cases h

theorem not_plain_of_automount {fd : D} (h : Automount os fd) : ¬Plain os fd := by
  rintro ⟨kind, hkind, hne⟩
  exact hne (Except.ok.inj (hkind.symm.trans h))

/-- The next position is the only one. -/
theorem Step.unique {p q r : D × List Bytes} (hq : Step os p q) (hr : Step os p r) : q = r := by
  obtain ⟨-, -, hopened⟩ := hq
  obtain ⟨-, -, hopened'⟩ := hr
  rw [Except.ok.inj (hopened.symm.trans hopened')]

/-- A position without elements left, on an improper element or on a descriptor that is not plain is
the last one. -/
theorem not_step {fd : D} {rest : List Bytes} {q : D × List Bytes}
    (h : ¬Plain os fd ∨ ∀ component ∈ rest.head?, ¬Proper component) : ¬Step os (fd, rest) q := by
  rintro ⟨hproper, hplain, -⟩
  rcases h with h | h
  · exact h hplain
  · exact h _ rfl hproper

/-- From a last position one gets nowhere. -/
theorem reaches_iff_of_stuck {p q : D × List Bytes} (h : ∀ r, ¬Step os p r) :
    Reaches os p q ↔ q = p :=
  ⟨fun hreach => (Relation.ReflTransGen.cases_head hreach).elim Eq.symm
    fun hstep => hstep.elim fun r hr => absurd hr.1 (h r), fun hq => hq ▸ .refl⟩

/-- From a position with a step one gets to where one was, or where the step gets. -/
theorem reaches_iff_of_step {p r q : D × List Bytes} (h : Step os p r) :
    Reaches os p q ↔ q = p ∨ Reaches os r q := by
  constructor
  · intro hreach
    rcases Relation.ReflTransGen.cases_head hreach with hq | ⟨r', hstep, hrest⟩
    · exact Or.inl hq.symm
    · exact Or.inr (h.unique hstep ▸ hrest)
  · rintro (rfl | hrest)
    · exact .refl
    · exact .head h hrest

/-! ### The outcome of a walk -/

/-- An outcome with numbers. -/
def Answers (result : FilesystemStatistics) (values : Statvfs) : Prop :=
  result.failure = none ∧ result.skip = none ∧ result.values = values

variable {mount : StorageMount}

theorem answers_finish {fd : D} {values : Statvfs} :
    Answers (finish os mount fd).1 values ↔
      Plain os fd ∧ Mounted os mount fd ∧ os.statvfs fd = .ok values := by
  rw [finish, ← queryable_eq_none_iff, Mounted]
  cases hquery : queryable os fd with
  | some result =>
      refine iff_of_false ?_ fun h => by cases h.1
      rcases queryable_eq_some hquery with ⟨-, rfl⟩ | ⟨_, -, rfl⟩
      · exact fun h => by cases h.2.1
      · exact fun h => by cases h.1
  | none =>
      cases hidentity : os.identity fd with
      | error error => simp [Answers]
      | ok identity =>
          simp only [Except.ok.injEq, exists_eq_left', true_and]
          by_cases hlink : identity.isLink
          · simp [hlink, Answers]
          · by_cases hdevice : identity.deviceNumber = mount.deviceNumber
            · cases hvalues : os.statvfs fd with
              | error error => simp [hlink, hdevice, Answers]
              | ok values' => simp [hlink, hdevice, Answers]
            · simp [hlink, hdevice, Answers]

theorem skip_finish {fd : D} {reason : SkipReason} :
    (finish os mount fd).1.skip = some reason ↔ Automount os fd ∧ reason = .notApplicable := by
  rw [finish]
  cases hquery : queryable os fd with
  | some result =>
      rcases queryable_eq_some hquery with ⟨hauto, rfl⟩ | ⟨error, herror, rfl⟩
      · simp [hauto, eq_comm]
      · simp [Automount, herror]
  | none =>
      have hplain := queryable_eq_none_iff.mp hquery
      refine iff_of_false ?_ fun h => not_plain_of_automount h.1 hplain
      dsimp only
      split
      · exact fun h => by cases h
      · split
        · exact fun h => by cases h
        · split
          · exact fun h => by cases h
          · dsimp only
            split <;> exact fun h => by cases h

/-- An outcome does not have a failure and a reason at once. -/
theorem failure_or_skip_finish {fd : D} :
    (finish os mount fd).1.failure = none ∨ (finish os mount fd).1.skip = none := by
  by_cases hskip : (finish os mount fd).1.skip = none
  · exact Or.inr hskip
  · obtain ⟨reason, hreason⟩ := Option.ne_none_iff_exists'.mp hskip
    have hauto := (skip_finish.mp hreason).1
    have hquery : queryable os fd = some
        { skip := some .notApplicable, note := "Automount filesystem not queried" } := by
      rw [queryable, hauto]
      rfl
    rw [finish, hquery]
    exact Or.inl rfl

/-- What a walk does at an element: it stops at the name, at the descriptor or at the opening, or it makes
a step. -/
inductive AtElement (os : Os D) (mount : StorageMount) (fd : D) (component : Bytes)
    (rest : List Bytes) : FilesystemStatistics × List (Call D) → Prop
  | improper (not_proper : ¬Proper component) :
      AtElement os mount fd component rest ({ failure := some .unsupported }, [.close fd])
  | stopped {result : FilesystemStatistics} (proper : Proper component)
      (query : queryable os fd = some result) :
      AtElement os mount fd component rest (result, [.filesystemType fd, .close fd])
  | missing {error : ℕ} (proper : Proper component) (plain : Plain os fd)
      (unopened : os.openAt fd component (decide (rest ≠ [])) = .error error) :
      AtElement os mount fd component rest
        ({ failure := some (fileFailure error) },
          [.filesystemType fd, .openAt fd component (decide (rest ≠ [])) (.error error), .close fd])
  | into {next : D} (step : Step os (fd, component :: rest) (next, rest)) :
      AtElement os mount fd component rest
        ((walk os mount next rest).1, .filesystemType fd ::
          .openAt fd component (decide (rest ≠ [])) (.ok next) :: .close fd ::
            (walk os mount next rest).2)

theorem walk_cons (fd : D) (component : Bytes) (rest : List Bytes) :
    AtElement os mount fd component rest (walk os mount fd (component :: rest)) := by
  rw [walk]
  by_cases himproper : component = FsPath.dot ∨ component = FsPath.dotDot
  · rw [if_pos himproper]
    exact .improper fun h => himproper.elim h.1 h.2
  · rw [if_neg himproper]
    have hproper : Proper component := not_or.mp himproper
    cases hquery : queryable os fd with
    | some result => exact .stopped hproper hquery
    | none =>
        have hplain := queryable_eq_none_iff.mp hquery
        dsimp only
        cases hopen : os.openAt fd component (decide (rest ≠ [])) with
        | error error => exact .missing hproper hplain hopen
        | ok next => exact .into (.into hproper hplain hopen)

/-- Where a walk stops before the end there is no step. -/
theorem AtElement.stuck_or_step {fd : D} {component : Bytes} {rest : List Bytes}
    {outcome : FilesystemStatistics × List (Call D)}
    (h : AtElement os mount fd component rest outcome) :
    ((∀ r, ¬Step os (fd, component :: rest) r) ∧
        (∀ values, ¬Answers outcome.1 values) ∧
        (∀ reason, outcome.1.skip = some reason ↔
          (Proper component ∧ Automount os fd) ∧ reason = .notApplicable)) ∨
      ∃ next, Step os (fd, component :: rest) (next, rest) ∧
        outcome.1 = (walk os mount next rest).1 := by
  cases h with
  | improper hnot =>
      exact Or.inl ⟨fun r => not_step (Or.inr fun c hc => Option.some.inj hc ▸ hnot),
        fun values h => (by cases h.1),
        fun reason => iff_of_false (fun h => by cases h) fun h => hnot h.1.1⟩
  | stopped hproper hquery =>
      have hplain : ¬Plain os fd := fun h => by
        rw [queryable_eq_none_iff.mpr h] at hquery
        cases hquery
      refine Or.inl ⟨fun r => not_step (Or.inl hplain), ?_⟩
      rcases queryable_eq_some hquery with ⟨hauto, rfl⟩ | ⟨error, herror, rfl⟩
      · exact ⟨fun values h => (by cases h.2.1), fun reason => by simp [hproper, hauto, eq_comm]⟩
      · exact ⟨fun values h => (by cases h.1), fun reason => by simp [Automount, herror]⟩
  | missing hproper hplain hopen =>
      refine Or.inl ⟨?_, fun values h => (by cases h.1), fun reason => ?_⟩
      · rintro r ⟨-, -, hopened⟩
        cases hopen.symm.trans hopened
      · exact iff_of_false (fun h => by cases h) fun h => not_plain_of_automount h.1.2 hplain
  | into hstep => exact Or.inr ⟨_, hstep, rfl⟩

/-- **A walk answers exactly where it gets to the end**, with the numbers of the file it finds there. -/
theorem walk_answer {fd : D} {components : List Bytes} {values : Statvfs} :
    Answers (walk os mount fd components).1 values ↔
      ∃ last, Reaches os (fd, components) (last, []) ∧ Plain os last ∧ Mounted os mount last ∧
        os.statvfs last = .ok values := by
  induction components generalizing fd with
  | nil =>
      have hstuck : ∀ r, ¬Step os (fd, []) r := fun r => not_step (Or.inr fun c hc => by cases hc)
      simp [walk, answers_finish, reaches_iff_of_stuck hstuck]
  | cons component rest ih =>
      rcases (walk_cons fd component rest).stuck_or_step with
        ⟨hstuck, hno, -⟩ | ⟨next, hstep, hwalk⟩
      · refine iff_of_false (hno values) ?_
        rintro ⟨last, hreach, -⟩
        cases (reaches_iff_of_stuck hstuck).mp hreach
      · rw [hwalk, ih]
        simp only [reaches_iff_of_step hstep, Prod.mk.injEq, reduceCtorEq, and_false, false_or]

/-- **A walk is skipped exactly where it gets to an automount**, at its end or with a proper element
ahead. -/
theorem walk_skip {fd : D} {components : List Bytes} {reason : SkipReason} :
    (walk os mount fd components).1.skip = some reason ↔
      (∃ last rest, Reaches os (fd, components) (last, rest) ∧ Automount os last ∧
        ∀ component ∈ rest.head?, Proper component) ∧ reason = .notApplicable := by
  induction components generalizing fd with
  | nil =>
      have hstuck : ∀ r, ¬Step os (fd, []) r := fun r => not_step (Or.inr fun c hc => by cases hc)
      simp [walk, skip_finish, reaches_iff_of_stuck hstuck]
  | cons component rest ih =>
      rcases (walk_cons fd component rest).stuck_or_step with
        ⟨hstuck, -, hskip⟩ | ⟨next, hstep, hwalk⟩
      · rw [hskip]
        simp [reaches_iff_of_stuck hstuck, and_comm]
      · obtain ⟨-, hplain, -⟩ := id hstep
        rw [hwalk, ih]
        refine and_congr_left fun _ => exists_congr fun last => exists_congr fun left => ?_
        rw [reaches_iff_of_step hstep]
        refine and_congr_left fun hauto => (or_iff_right ?_).symm
        intro hhere
        rw [(Prod.mk.inj hhere).1] at hauto
        exact not_plain_of_automount hauto.1 hplain

theorem failure_or_skip_walk {fd : D} {components : List Bytes} :
    (walk os mount fd components).1.failure = none ∨
      (walk os mount fd components).1.skip = none := by
  induction components generalizing fd with
  | nil => exact failure_or_skip_finish
  | cons component rest ih =>
      have hstep := @walk_cons D os mount fd component rest
      generalize walk os mount fd (component :: rest) = outcome at hstep ⊢
      cases hstep with
      | improper => exact Or.inr rfl
      | stopped _ hquery =>
          rcases queryable_eq_some hquery with ⟨-, rfl⟩ | ⟨_, -, rfl⟩
          · exact Or.inl rfl
          · exact Or.inr rfl
      | missing => exact Or.inr rfl
      | into => exact ih

/-! ### The system calls -/

/-- The calls that may be made where one can get: a file system is asked for everywhere, a name is looked up
beneath a plain descriptor only, and numbers are asked for at the end and of the mount's own device. -/
inductive Allowed (os : Os D) (mount : StorageMount) (At : D × List Bytes → Prop) : Call D → Prop
  | openRoot : Allowed os mount At (.openRoot os.openRoot)
  | filesystemType {fd : D} {rest : List Bytes} (here : At (fd, rest)) :
      Allowed os mount At (.filesystemType fd)
  | openAt {fd : D} {component : Bytes} {rest : List Bytes} (here : At (fd, component :: rest))
      (proper : Proper component) (plain : Plain os fd) :
      Allowed os mount At (.openAt fd component (decide (rest ≠ []))
        (os.openAt fd component (decide (rest ≠ []))))
  | identity {fd : D} (here : At (fd, [])) (plain : Plain os fd) :
      Allowed os mount At (.identity fd)
  | statvfs {fd : D} (here : At (fd, [])) (plain : Plain os fd) (mounted : Mounted os mount fd) :
      Allowed os mount At (.statvfs fd)
  | close {fd : D} {rest : List Bytes} (here : At (fd, rest)) : Allowed os mount At (.close fd)

theorem Allowed.mono {At At' : D × List Bytes → Prop} (hsub : ∀ p, At p → At' p) {call : Call D}
    (h : Allowed os mount At call) : Allowed os mount At' call := by
  cases h with
  | openRoot => exact .openRoot
  | filesystemType here => exact .filesystemType (hsub _ here)
  | openAt here proper plain => exact .openAt (hsub _ here) proper plain
  | identity here plain => exact .identity (hsub _ here) plain
  | statvfs here plain mounted => exact .statvfs (hsub _ here) plain mounted
  | close here => exact .close (hsub _ here)

theorem finish_calls {fd : D} :
    ∀ call ∈ (finish os mount fd).2, Allowed os mount (· = (fd, [])) call := by
  have hkind : Allowed os mount (· = (fd, [])) (.filesystemType fd) := .filesystemType rfl
  have hclose : Allowed os mount (· = (fd, [])) (.close fd) := .close rfl
  rw [finish]
  cases hquery : queryable os fd with
  | some result => simp [hkind, hclose]
  | none =>
      have hplain := queryable_eq_none_iff.mp hquery
      have hidentity : Allowed os mount (· = (fd, [])) (.identity fd) := .identity rfl hplain
      cases hfile : os.identity fd with
      | error error => simp [hkind, hclose, hidentity]
      | ok identity =>
          dsimp only
          by_cases hlink : identity.isLink
          · simp [hlink, hkind, hclose, hidentity]
          · by_cases hdevice : identity.deviceNumber = mount.deviceNumber
            · have hvalues : Allowed os mount (· = (fd, [])) (.statvfs fd) :=
                .statvfs rfl hplain ⟨identity, hfile, hlink, hdevice⟩
              simp [hlink, hdevice, hkind, hclose, hidentity, hvalues]
            · simp [hlink, hdevice, hkind, hclose, hidentity]

/-- **What a walk asks**, it asks where it gets to. -/
theorem walk_calls {fd : D} {components : List Bytes} :
    ∀ call ∈ (walk os mount fd components).2,
      Allowed os mount (Reaches os (fd, components)) call := by
  induction components generalizing fd with
  | nil =>
      exact fun call hcall => (finish_calls call hcall).mono fun p hp => hp ▸ .refl
  | cons component rest ih =>
      have hkind : Allowed os mount (Reaches os (fd, component :: rest)) (.filesystemType fd) :=
        .filesystemType .refl
      have hclose : Allowed os mount (Reaches os (fd, component :: rest)) (.close fd) := .close .refl
      have hstep := @walk_cons D os mount fd component rest
      generalize walk os mount fd (component :: rest) = outcome at hstep ⊢
      cases hstep with
      | improper => simp [hclose]
      | stopped => simp [hkind, hclose]
      | missing hproper hplain hopen =>
          have hcall : Allowed os mount (Reaches os (fd, component :: rest)) _ :=
            .openAt .refl hproper hplain
          rw [hopen] at hcall
          simp only [List.forall_mem_cons]
          exact ⟨hkind, hcall, hclose, fun _ h => by cases h⟩
      | into hstep =>
          intro call hmem
          obtain ⟨hproper, hplain, hopen⟩ := id hstep
          have hcall : Allowed os mount (Reaches os (fd, component :: rest)) _ :=
            .openAt .refl hproper hplain
          rw [hopen] at hcall
          rcases List.mem_cons.mp hmem with rfl | hmem
          · exact hkind
          rcases List.mem_cons.mp hmem with rfl | hmem
          · exact hcall
          rcases List.mem_cons.mp hmem with rfl | hmem
          · exact hclose
          exact (ih call hmem).mono fun p hp => .head hstep hp

/-! ### The descriptors -/

/-- The descriptor a call opens. -/
def Call.opened : Call D → Option D
  | .openRoot result => result.toOption
  | .openAt _ _ _ result => result.toOption
  | _ => none

/-- The descriptor a call closes. -/
def Call.closed : Call D → Option D
  | .close fd => some fd
  | _ => none

theorem finish_descriptors {fd : D} :
    (finish os mount fd).2.filterMap Call.opened = [] ∧
      (finish os mount fd).2.filterMap Call.closed = [fd] := by
  rw [finish]
  cases queryable os fd with
  | some result => exact ⟨rfl, rfl⟩
  | none =>
      dsimp only
      split
      · exact ⟨rfl, rfl⟩
      · split
        · exact ⟨rfl, rfl⟩
        · split <;> exact ⟨rfl, rfl⟩

/-- A walk closes the descriptor it starts from, and those it opens in their order. -/
theorem walk_closed {fd : D} {components : List Bytes} :
    (walk os mount fd components).2.filterMap Call.closed =
      fd :: (walk os mount fd components).2.filterMap Call.opened := by
  induction components generalizing fd with
  | nil =>
      rw [walk, finish_descriptors.1, finish_descriptors.2]
  | cons component rest ih =>
      have hstep := @walk_cons D os mount fd component rest
      generalize walk os mount fd (component :: rest) = outcome at hstep ⊢
      cases hstep with
      | improper => rfl
      | stopped => rfl
      | missing => rfl
      | into hstep => exact congrArg (fd :: ·) ih

/-- Besides the descriptor it starts from, a walk has at most one more open. -/
theorem walk_open {fd : D} {components : List Bytes} {before : List (Call D)}
    (h : before <+: (walk os mount fd components).2) :
    (before.filterMap Call.opened).length ≤ (before.filterMap Call.closed).length + 1 := by
  induction components generalizing fd before with
  | nil =>
      have hnone := h.sublist.filterMap Call.opened
      rw [walk, finish_descriptors.1, List.sublist_nil] at hnone
      rw [hnone]
      exact Nat.zero_le _
  | cons component rest ih =>
      have hstep := @walk_cons D os mount fd component rest
      generalize walk os mount fd (component :: rest) = outcome at hstep h
      -- nothing is opened where the walk stops
      have hstop {outcome : FilesystemStatistics × List (Call D)} (h : before <+: outcome.2)
          (hnone : outcome.2.filterMap Call.opened = []) :
          (before.filterMap Call.opened).length ≤ (before.filterMap Call.closed).length + 1 := by
        have hsub := h.sublist.filterMap Call.opened
        rw [hnone, List.sublist_nil] at hsub
        rw [hsub]
        exact Nat.zero_le _
      cases hstep with
      | improper => exact hstop h rfl
      | stopped => exact hstop h rfl
      | missing => exact hstop h rfl
      | into hstep =>
          simp only [List.prefix_cons_iff] at h
          rcases h with rfl | ⟨-, rfl, rfl | ⟨-, rfl, rfl | ⟨after, rfl, hafter⟩⟩⟩
          · exact Nat.zero_le _
          · exact Nat.zero_le _
          · exact le_rfl
          · exact Nat.succ_le_succ (ih hafter)

/-! ### One mount -/

/-- What `read_filesystem_statistics` does for a mount. -/
structure Queried (os : Os D) (mount : StorageMount)
    (outcome : FilesystemStatistics × List (Call D)) : Prop where
  /-- Numbers come from the file system at the mount point, and from there they always come. -/
  answers : ∀ values, Answers outcome.1 values ↔
    ∃ fd, Reached os mount (fd, []) ∧ Plain os fd ∧ Mounted os mount fd ∧ os.statvfs fd = .ok values
  /-- The only reason to skip a mount is an automount that is met. -/
  skip : ∀ reason, outcome.1.skip = some reason ↔
    (∃ fd rest, Reached os mount (fd, rest) ∧ Automount os fd ∧
      ∀ component ∈ rest.head?, Proper component) ∧ reason = .notApplicable
  exclusive : outcome.1.failure = none ∨ outcome.1.skip = none
  calls : ∀ call ∈ outcome.2, Allowed os mount (Reached os mount) call
  /-- What is opened is closed, in this order. -/
  closed : outcome.2.filterMap Call.closed = outcome.2.filterMap Call.opened
  /-- Never are more than two descriptors open. -/
  open_le : ∀ before, before <+: outcome.2 →
    (before.filterMap Call.opened).length ≤ (before.filterMap Call.closed).length + 2

/-- Without a position to start from nothing comes out. -/
theorem queried_of_not_reached {result : FilesystemStatistics} {calls : List (Call D)}
    (hnot : ∀ p, ¬Reached os mount p) (hfailure : result.failure ≠ none) (hskip : result.skip = none)
    (hcalls : ∀ call ∈ calls, call = .openRoot os.openRoot)
    (hclosed : calls.filterMap Call.closed = []) (hopened : calls.filterMap Call.opened = []) :
    Queried os mount (result, calls) where
  answers := fun values => iff_of_false (fun h => hfailure h.1) fun h => h.elim fun _ h => hnot _ h.1
  skip := fun reason =>
    iff_of_false (fun h => by cases hskip.symm.trans h) fun h =>
      h.1.elim fun _ h => h.elim fun _ h => hnot _ h.1
  exclusive := Or.inr hskip
  calls := fun call hcall => hcalls call hcall ▸ .openRoot
  closed := hclosed.trans hopened.symm
  open_le := by
    intro before hbefore
    have hsub := hbefore.sublist.filterMap Call.opened
    rw [hopened, List.sublist_nil] at hsub
    rw [hsub]
    exact Nat.zero_le _

variable (os mount)

/-- **A mount is asked at its own mount point**, on its own device, and nowhere beneath an automount or
behind a symbolic link; every descriptor is closed again. -/
theorem queried_readFilesystemStatistics : Queried os mount (readFilesystemStatistics os mount) := by
  rw [readFilesystemStatistics]
  by_cases hpath : ¬FsPath.isAbsolute mount.path ∨ 0 ∈ mount.path
  · rw [if_pos hpath]
    have hnot : ∀ p, ¬Reached os mount p := fun p h => hpath.elim (fun hp => hp h.1) h.2.1
    exact queried_of_not_reached hnot (fun h => by cases h) rfl (fun _ h => by cases h) rfl rfl
  · rw [if_neg hpath]
    rw [not_or, not_not] at hpath
    cases hroot : os.openRoot with
    | error error =>
        have hnot : ∀ p, ¬Reached os mount p := by
          rintro p ⟨-, -, root, hopened, -⟩
          cases hroot.symm.trans hopened
        refine queried_of_not_reached hnot (fun h => by cases h) rfl (fun call hcall => ?_) rfl rfl
        rw [List.mem_singleton.mp hcall, hroot]
    | ok root =>
        have hreached (p : D × List Bytes) :
            Reached os mount p ↔ Reaches os (root, FsPath.relativeElements mount.path) p := by
          rw [Reached, hroot]
          simp [hpath.1, hpath.2]
        exact
          { answers := fun values => by
              simp only [hreached]
              exact walk_answer
            skip := fun reason => by
              simp only [hreached]
              exact walk_skip
            exclusive := failure_or_skip_walk
            calls := by
              intro call hcall
              rcases List.mem_cons.mp hcall with rfl | hcall
              · exact hroot ▸ .openRoot
              · exact (walk_calls call hcall).mono fun p hp => (hreached p).mpr hp
            closed := walk_closed
            open_le := by
              intro before hbefore
              rcases List.prefix_cons_iff.mp hbefore with rfl | ⟨after, rfl, hafter⟩
              · exact Nat.zero_le _
              · exact Nat.succ_le_succ (walk_open hafter) }

end FilesystemStats

end Sysal
