import Mathlib.Data.List.Infix
import Sysal.Reader.Cgroup

/-!
# The walk up a control group hierarchy

What the reader should do with an accepted hierarchy: visit the directories from the control group of
the process up to the mount point, each once and no other, and take a limit file that does not exist
at the mount point for one that is not there (`WalksUp`).

* `walk_isSome`: the walk ends, whatever the paths are.
* `walk_reaches`, `walk_overshoots`: the levels it visits when it meets the mount point on the way up,
  and when it does not.
* `walksUp_iff`: the reader does what it should exactly when the process is strictly below the mount
  point, up to the forms of paths that `Regular` spells out.
-/

namespace Sysal

namespace CgroupReader

open FsPath

/-! ### The intended walk -/

/-- The directory a path names: separators at the end and dots do not count. -/
def directory (p : Bytes) : Bool × List Bytes :=
  (isAbsolute p, (relativeElements p).filter fun e => e ≠ [] ∧ e ≠ dot)

/-- The names that lead from the mount point to the control group of the process. -/
def Hierarchy.below (h : Hierarchy) : List Bytes := (directory h.relative).2

/-- The files that hold limits. -/
def limitFiles : List Bytes :=
  [utf8 "cpu.max", utf8 "memory.max", utf8 "cpu.cfs_quota_us", utf8 "cpu.cfs_period_us",
   utf8 "memory.limit_in_bytes"]

/-- A file that simply does not exist. -/
def Missing (tree : FileTree) (path : Bytes) : Prop :=
  tree.read path = none ∧ tree.existence path = some false

/-- The intended reading of a hierarchy: the walk ends, it visits the directories from the control group
of the process up to the mount point, and a missing limit file of the mount point is no failure. -/
structure WalksUp (tree : FileTree) (h : Hierarchy) : Prop where
  visits : ∃ levels, walk h.mount (walkBound h.leaf) true h.leaf = some levels ∧
    levels.map (fun level => directory level.2) =
      h.below.inits.reverse.map fun b => ((directory h.mount).1, (directory h.mount).2 ++ b)
  missing : ∀ record ∈ h.records tree,
    directory (parentPath record.pathOrCommand) = directory h.mount →
      fileName record.pathOrCommand ∈ limitFiles → Missing tree record.pathOrCommand →
        record.status = .notCollected

/-- The forms of a hierarchy the reader handles as intended.  With the process at the mount point, the
joined path must be the mount point itself, so that no level is visited twice, and no limit file may be
missing there.  With the process below it, neither path may end with a separator; below the mount point
`.` the walk ends at the empty path, where again no limit file may be missing. -/
def Regular (tree : FileTree) (h : Hierarchy) : Prop :=
  if h.below = [] then
    (fileName h.mount = [] ∨ fileName h.mount = dot ∨ fileName h.mount = dotDot) ∧
      ∀ name ∈ h.names, name ∈ limitFiles → ¬ Missing tree (append h.mount name)
  else
    fileName h.relative ≠ [] ∧ (noRelativePart h.mount = true ∨ fileName h.mount ≠ []) ∧
      (h.mount = dot → ∀ name ∈ h.names, name ∈ limitFiles →
        ¬(name = utf8 "memory.limit_in_bytes" ∧
          (tree.read (utf8 "memory.use_hierarchy")).any (Bytes.startsWith · (utf8 "0"))) →
          ¬ Missing tree name)

/-! ### The levels of a walk -/

theorem sameElements_iff {p q : Bytes} (h : isAbsolute p = isAbsolute q) :
    sameElements p q = true ↔ relativeElements p = relativeElements q := by
  rw [sameElements, decide_eq_true_iff, elements, elements, h]
  exact List.append_right_inj _

/-- The parent of a path with a relative part is another path. -/
theorem sameElements_parent {p : Bytes} :
    sameElements (parentPath p) p = true ↔ relativeElements p = [] := by
  by_cases h : noRelativePart p = true
  · rw [parentPath_of_noRelativePart h]
    exact iff_of_true (decide_eq_true rfl) (if_pos h)
  · rw [Bool.not_eq_true] at h
    obtain ⟨hparent, habs⟩ := relativeElements_parentPath h
    rw [sameElements_iff habs, hparent]
    constructor
    · intro heq
      have hlen := congrArg List.length heq
      rw [List.length_dropLast] at hlen
      exact List.length_eq_zero_iff.mp (by omega)
    · intro hnil
      rw [hnil]
      rfl

/-- **The walk ends** within its bound, from every path to every mount point. -/
theorem walk_isSome (mount : Bytes) (current : Bool) (leaf : Bytes) :
    (walk mount (walkBound leaf) current leaf).isSome = true := by
  rw [walkBound]
  generalize hn : (relativeElements leaf).length = n
  induction n generalizing leaf current with
  | zero =>
      rw [walk]
      split
      · rfl
      · have hnil := List.length_eq_zero_iff.mp hn
        dsimp only
        rw [if_pos (sameElements_parent.mpr hnil)]
        rfl
  | succ n ih =>
      rw [walk]
      split
      · rfl
      · dsimp only
        split
        · rfl
        · rename_i hparent
          have hrel : noRelativePart leaf = false := by
            rw [← Bool.not_eq_true]
            intro h
            rw [relativeElements, if_pos h] at hn
            cases hn
          have hlen : (relativeElements (parentPath leaf)).length = n := by
            rw [(relativeElements_parentPath hrel).1, List.length_dropLast, hn]
            rfl
          rw [Option.isSome_map]
          exact ih false (parentPath leaf) hlen

/-- What is known of the levels of a walk: their elements, their root, and that only the first one is
the current directory. -/
structure Levels (leaf : Bytes) (current : Bool) (levels : List (Bool × Bytes))
    (visited : List (List Bytes)) : Prop where
  elements : levels.map (fun level => relativeElements level.2) = visited
  absolute : ∀ level ∈ levels, isAbsolute level.2 = isAbsolute leaf
  first : ∃ rest, levels = (current, leaf) :: rest ∧ ∀ level ∈ rest, level.1 = false

theorem Levels.single (leaf : Bytes) (current : Bool) :
    Levels leaf current [(current, leaf)] [relativeElements leaf] :=
  ⟨rfl, by simp, [], rfl, by simp⟩

theorem Levels.cons {leaf parent : Bytes} {levels : List (Bool × Bytes)} {visited : List (List Bytes)}
    (habs : isAbsolute parent = isAbsolute leaf) (h : Levels parent false levels visited)
    (current : Bool) :
    Levels leaf current ((current, leaf) :: levels) (relativeElements leaf :: visited) := by
  refine ⟨by rw [List.map_cons, h.elements], ?_, levels, rfl, ?_⟩
  · intro level hlevel
    rcases List.mem_cons.mp hlevel with rfl | hlevel
    · rfl
    · rw [h.absolute level hlevel, habs]
  · obtain ⟨rest, rfl, hrest⟩ := h.first
    intro level hlevel
    rcases List.mem_cons.mp hlevel with rfl | hlevel
    · rfl
    · exact hrest level hlevel

/-- The prefixes of a list with one more element, longest first. -/
theorem inits_concat_reverse {α : Type*} (l : List α) (a : α) :
    (l ++ [a]).inits.reverse = (l ++ [a]) :: l.inits.reverse := by
  rw [List.inits_append]
  simp

/-- **A walk that meets the mount point** visits the prefixes down to it. -/
theorem walk_reaches {mount leaf : Bytes} (habs : isAbsolute leaf = isAbsolute mount) {r : List Bytes}
    (hleaf : relativeElements leaf = relativeElements mount ++ r) (current : Bool) :
    ∃ levels, walk mount (walkBound leaf) current leaf = some levels ∧
      Levels leaf current levels (r.inits.reverse.map (relativeElements mount ++ ·)) := by
  have hbound : ∀ fuel, r.length < fuel → ∃ levels, walk mount fuel current leaf = some levels ∧
      Levels leaf current levels (r.inits.reverse.map (relativeElements mount ++ ·)) := by
    induction r using List.reverseRecOn generalizing leaf current with
    | nil =>
        intro fuel hfuel
        obtain ⟨fuel, rfl⟩ := Nat.exists_eq_add_of_lt hfuel
        rw [List.append_nil] at hleaf
        refine ⟨[(current, leaf)], ?_, ?_⟩
        · rw [walk, if_pos ((sameElements_iff habs).mpr hleaf)]
        · have := Levels.single leaf current
          rw [hleaf] at this
          simpa using this
    | append_singleton r e ih =>
        intro fuel hfuel
        rw [List.length_append, List.length_singleton] at hfuel
        obtain ⟨fuel, rfl⟩ : ∃ k, fuel = k + 1 := ⟨fuel - 1, by omega⟩
        have hne : relativeElements leaf ≠ [] := by
          rw [hleaf]
          simp
        have hrel : noRelativePart leaf = false := by
          rw [← Bool.not_eq_true]
          exact fun h => hne (if_pos h)
        obtain ⟨hparent, hparentAbs⟩ := relativeElements_parentPath hrel
        rw [hleaf, ← List.append_assoc, List.dropLast_concat] at hparent
        obtain ⟨levels, hwalk, hlevels⟩ := ih (hparentAbs.trans habs) hparent false fuel (by omega)
        have hmount : ¬ sameElements leaf mount = true := by
          rw [sameElements_iff habs, hleaf]
          intro h
          have := congrArg List.length h
          simp at this
        refine ⟨(current, leaf) :: levels, ?_, ?_⟩
        · rw [walk, if_neg hmount]
          dsimp only
          rw [if_neg (fun h => hne (sameElements_parent.mp h)), hwalk]
          rfl
        · have := hlevels.cons hparentAbs current
          rw [hleaf] at this
          rw [inits_concat_reverse]
          exact this
  refine hbound _ ?_
  rw [walkBound, hleaf, List.length_append]
  omega

/-- **A walk that never meets the mount point** goes up to the path without a relative part. -/
theorem walk_overshoots {mount leaf : Bytes}
    (hnever : ∀ l, l <+: relativeElements leaf → l ≠ [] → l ≠ relativeElements mount)
    (hroot : relativeElements mount ≠ []) (habs : isAbsolute leaf = isAbsolute mount)
    (current : Bool) :
    ∃ levels, walk mount (walkBound leaf) current leaf = some levels ∧
      Levels leaf current levels (relativeElements leaf).inits.reverse := by
  rw [walkBound]
  generalize hl : relativeElements leaf = l at hnever
  induction l using List.reverseRecOn generalizing leaf current with
  | nil =>
      have hmount : ¬ sameElements leaf mount = true := by
        rw [sameElements_iff habs, hl]
        exact fun h => hroot h.symm
      refine ⟨[(current, leaf)], ?_, ?_⟩
      · rw [List.length_nil, walk, if_neg hmount]
        dsimp only
        rw [if_pos (sameElements_parent.mpr hl)]
      · have := Levels.single leaf current
        rw [hl] at this
        exact this
  | append_singleton l e ih =>
      have hne : relativeElements leaf ≠ [] := by
        rw [hl]
        simp
      have hrel : noRelativePart leaf = false := by
        rw [← Bool.not_eq_true]
        exact fun h => hne (if_pos h)
      obtain ⟨hparent, hparentAbs⟩ := relativeElements_parentPath hrel
      rw [hl, List.dropLast_concat] at hparent
      obtain ⟨levels, hwalk, hlevels⟩ := ih (hparentAbs.trans habs) false hparent
        fun l' hl' => hnever l' (hl'.trans (List.prefix_append l [e]))
      have hmount : ¬ sameElements leaf mount = true := by
        rw [sameElements_iff habs, hl]
        exact hnever _ List.prefix_rfl (by simp)
      refine ⟨(current, leaf) :: levels, ?_, ?_⟩
      · rw [List.length_append, List.length_singleton, walk, if_neg hmount]
        dsimp only
        rw [if_neg (fun h => hne (sameElements_parent.mp h)), hwalk]
        rfl
      · have := hlevels.cons hparentAbs current
        rw [hl] at this
        rw [inits_concat_reverse]
        exact this

/-- The directories of the levels. -/
theorem Levels.directories {leaf : Bytes} {current : Bool} {levels : List (Bool × Bytes)}
    {visited : List (List Bytes)} (h : Levels leaf current levels visited) :
    levels.map (fun level => directory level.2) =
      visited.map fun es => (isAbsolute leaf, es.filter fun e => e ≠ [] ∧ e ≠ dot) := by
  rw [← h.elements, List.map_map]
  refine List.map_congr_left fun level hlevel => ?_
  rw [directory, h.absolute level hlevel]
  rfl

theorem Levels.length_eq {leaf : Bytes} {current : Bool} {levels : List (Bool × Bytes)}
    {visited : List (List Bytes)} (h : Levels leaf current levels visited) :
    levels.length = visited.length := by
  rw [← h.elements, List.length_map]

/-! ### Accepted hierarchies -/

/-- What acceptance guarantees: the mount point is a normal path, and the path below it is empty, a dot,
or goes down. -/
structure Accepted (h : Hierarchy) (rooted : Bool) (names : List Bytes) (slash : Bool) : Prop where
  normal : IsNormal rooted names
  mount : h.mount = render rooted names slash
  relative : h.relative = [] ∨ h.relative = dot ∨ ∃ below slash', Descends h.relative below slash'
  files : ∀ name ∈ h.names, IsName name

theorem replaceFrom_ne_nil {pat s : Bytes} (decoded : UInt8) (h : s ≠ []) :
    replaceFrom pat decoded 0 s ≠ [] := by
  obtain ⟨c, t, rfl⟩ := List.exists_cons_of_ne_nil h
  rw [replaceFrom]
  split <;> exact List.cons_ne_nil _ _

theorem unescape_ne_nil {s : Bytes} (h : s ≠ []) : unescape s ≠ [] :=
  replaceFrom_ne_nil _ (replaceFrom_ne_nil _ (replaceFrom_ne_nil _ h))

theorem isName_hierarchyNames (unified : Bool) (controllers options : Bytes) :
    ∀ name ∈ hierarchyNames unified controllers options, IsName name := by
  have hname : ∀ name : Bytes, (name ≠ [] ∧ ∀ c ∈ name, c ≠ 47) → IsName name := fun _ h => h
  intro name hmem
  rw [hierarchyNames] at hmem
  split at hmem
  · simp only [List.mem_cons, List.not_mem_nil, or_false] at hmem
    rcases hmem with rfl | rfl | rfl | rfl | rfl <;> exact hname _ (by decide +kernel)
  · dsimp only at hmem
    rcases List.mem_append.mp hmem with hmem | hmem
    · rcases List.mem_append.mp hmem with hmem | hmem
      all_goals
        split at hmem
        · simp only [List.mem_cons, List.not_mem_nil, or_false] at hmem
          rcases hmem with rfl | rfl <;> exact hname _ (by decide +kernel)
        · cases hmem
    · split at hmem
      · simp only [List.mem_cons, List.not_mem_nil, or_false] at hmem
        rcases hmem with rfl | rfl <;> exact hname _ (by decide +kernel)
      · cases hmem

theorem acceptMembership_spec {root mount fsType options group : Bytes} {h : Hierarchy}
    (hacc : acceptMembership root mount fsType options group = some h) :
    h.mount = mount ∧
      (h.relative = [] ∨ h.relative = dot ∨ ∃ below slash', Descends h.relative below slash') ∧
      ∀ name ∈ h.names, IsName name := by
  rw [acceptMembership] at hacc
  obtain ⟨⟨_, rest⟩, -, hacc⟩ := Option.bind_eq_some_iff.mp hacc
  obtain ⟨⟨controllers, groupPath⟩, -, hacc⟩ := Option.bind_eq_some_iff.mp hacc
  dsimp only at hacc
  split at hacc
  · cases hacc
  split at hacc
  · cases hacc
  generalize hrelative : (if elements (lexicallyNormal groupPath) = [[47]] then ([] : Bytes)
    else lexicallyRelative (lexicallyNormal groupPath) root) = relative at hacc
  split at hacc
  · cases hacc
  rename_i hclimb
  split at hacc
  · cases hacc
  obtain rfl := Option.some.inj hacc
  refine ⟨rfl, ?_, isName_hierarchyNames _ _ _⟩
  dsimp only
  by_cases hrootPath : elements (lexicallyNormal groupPath) = [[47]]
  · rw [if_pos hrootPath] at hrelative
    exact .inl hrelative.symm
  · rw [if_neg hrootPath] at hrelative
    rw [← hrelative] at hclimb ⊢
    have hpath : lexicallyNormal groupPath = [] ∨ ∃ rooted names slash, IsNormal rooted names ∧
        lexicallyNormal groupPath = render rooted names slash := by
      by_cases hnil : groupPath = []
      · exact .inl (if_pos hnil)
      · obtain ⟨names, slash, hnormal, heq⟩ := lexicallyNormal_eq_render hnil
        exact .inr ⟨_, names, slash, hnormal, heq⟩
    rcases lexicallyRelative_cases root hpath with h | h | h | h
    · exact .inl h
    · exact .inr (.inl h)
    · refine absurd ⟨?_, h⟩ hclimb
      intro hnil
      rw [hnil] at h
      cases h
    · exact .inr (.inr h)

/-- **Every hierarchy that is read is an accepted one.** -/
theorem accepted_of_mem {mountinfo membership : Bytes} {h : Hierarchy}
    (hmem : h ∈ hierarchies mountinfo membership) : ∃ rooted names slash, Accepted h rooted names slash := by
  obtain ⟨line, -, hmem⟩ := List.mem_flatMap.mp hmem
  rw [mountHierarchies] at hmem
  split at hmem
  · cases hmem
  · rename_i left right _
    split at hmem
    · rename_i _ _ _ root mount _ fsType _ options _ hwords _
      split at hmem
      · obtain ⟨group, -, hacc⟩ := List.mem_filterMap.mp hmem
        obtain ⟨hmount, hrelative, hfiles⟩ := acceptMembership_spec hacc
        have hword : mount ≠ [] := by
          have : mount ∈ words left := by
            rw [hwords]
            simp
          exact of_decide_eq_true (List.mem_filter.mp this).2
        obtain ⟨names, slash, hnormal, heq⟩ := lexicallyNormal_eq_render (unescape_ne_nil hword)
        exact ⟨_, names, slash, hnormal, hmount.trans heq, hrelative, hfiles⟩
      · cases hmem
    · cases hmem

/-! ### Directories and filenames of the paths involved -/

theorem filter_isNormal {rooted : Bool} {names : List Bytes} (h : IsNormal rooted names) :
    names.filter (fun e => decide (e ≠ [] ∧ e ≠ dot)) = names := by
  refine List.filter_eq_self.mpr fun n hn => decide_eq_true ⟨(h.isName n hn).1, ?_⟩
  obtain ⟨k, plain, rfl, hplain, -⟩ := h
  rcases List.mem_append.mp hn with hn | hn
  · rw [List.eq_of_mem_replicate hn]
    decide
  · exact (hplain n hn).2.1

theorem directory_render {rooted slash : Bool} {names : List Bytes} (h : IsNormal rooted names) :
    directory (render rooted names slash) = (rooted, names) := by
  obtain ⟨habs, hrel⟩ := render_spec rooted slash h.isName
  rw [directory, habs, hrel]
  rcases List.eq_nil_or_concat names with rfl | ⟨init, last, rfl⟩
  · cases rooted <;> rfl
  · have hfilter := filter_isNormal h
    rw [List.concat_eq_append] at hfilter ⊢
    rw [List.getLast?_concat]
    dsimp only
    have hslash : (if slash = true ∧ last ≠ dotDot then [[]] else [] : List Bytes).filter
        (fun e => decide (e ≠ [] ∧ e ≠ dot)) = [] := by
      split <;> rfl
    rw [List.filter_append, hfilter, hslash, List.append_nil]

/-- The directory a file lies in. -/
theorem directory_parentPath_append {name : Bytes} (h : IsName name) (p : Bytes) :
    directory (parentPath (append p name)) = directory p := by
  have hname := isAbsolute_of_isName (.inr h)
  have hrel : relativeElements (append p name) = namesOf p ++ [name] := by
    rw [relativeElements_append hname h.1, relativeElements_name h]
  have hpart : noRelativePart (append p name) = false := by
    rw [← Bool.not_eq_true]
    intro hall
    rw [relativeElements, if_pos hall] at hrel
    simp at hrel
  obtain ⟨hparent, habs⟩ := relativeElements_parentPath hpart
  rw [directory, directory, hparent, habs, hrel, List.dropLast_concat, isAbsolute_append hname,
    ← filter_relativeElements p, List.filter_filter]
  congr 2
  funext e
  by_cases he : e = [] <;> simp [he]

theorem fileName_of_relativeElements {p n : Bytes} {l : List Bytes}
    (h : relativeElements p = l ++ [n]) : fileName p = n := by
  have hrel : noRelativePart p = false := by
    rw [← Bool.not_eq_true]
    intro hall
    rw [relativeElements, if_pos hall] at h
    simp at h
  rw [relativeElements_eq hrel] at h
  exact List.singleton_inj.mp (List.append_inj' h rfl).2

theorem eq_nil_of_relative {p : Bytes} (habs : isAbsolute p = false) (h : relativeElements p = []) :
    p = [] := by
  have hall : noRelativePart p = true := by
    by_contra hpart
    rw [Bool.not_eq_true] at hpart
    rw [relativeElements_eq hpart] at h
    simp at h
  rcases p with _ | ⟨c, p⟩
  · rfl
  · have hc := noRelativePart_iff.mp hall c List.mem_cons_self
    rw [hc] at habs
    cases habs

theorem directory_descends {q : Bytes} {below : List Bytes} {slash : Bool}
    (h : Descends q below slash) : directory q = (false, below) := by
  rw [directory, h.relative, h.elements]
  have hbelow : below.filter (fun e => decide (e ≠ [] ∧ e ≠ dot)) = below :=
    List.filter_eq_self.mpr fun n hn => decide_eq_true ⟨(h.plain n hn).1.1, (h.plain n hn).2.1⟩
  rw [List.filter_append, hbelow]
  cases slash <;> simp

/-- A path that goes down has an empty filename only behind a separator. -/
theorem fileName_descends {q : Bytes} {below : List Bytes} {slash : Bool}
    (h : Descends q below slash) : fileName q = [] ↔ slash = true := by
  have hrel := h.elements
  cases slash with
  | true => exact iff_of_true (fileName_of_relativeElements hrel) rfl
  | false =>
      rcases List.eq_nil_or_concat below with hnil | ⟨init, last, hlast⟩
      · exact absurd hnil h.nonempty
      · rw [if_neg Bool.false_ne_true, List.append_nil, hlast, List.concat_eq_append] at hrel
        rw [fileName_of_relativeElements hrel]
        exact iff_of_false (h.plain last (by simp [hlast])).1.1 Bool.false_ne_true

/-! ### The process at the mount point -/

/-- A mount point that joining with nothing, or with a dot, leaves alone. -/
theorem render_slash_iff {rooted : Bool} (slash : Bool) {names : List Bytes}
    (h : IsNormal rooted names) :
    (fileName (render rooted names slash) = [] ∨ fileName (render rooted names slash) = dot ∨
        fileName (render rooted names slash) = dotDot) ∧
        render rooted names true = render rooted names slash ∨
      (¬(fileName (render rooted names slash) = [] ∨ fileName (render rooted names slash) = dot ∨
        fileName (render rooted names slash) = dotDot) ∧
        relativeElements (render rooted names true) =
          relativeElements (render rooted names slash) ++ [[]]) := by
  rcases List.eq_nil_or_concat names with rfl | ⟨init, last, rfl⟩
  · refine .inl ⟨?_, rfl⟩
    cases rooted <;> cases slash <;> decide
  · have hrel := (render_spec rooted slash h.isName).2
    have hrelTrue := (render_spec rooted true h.isName).2
    have hlastFilter := List.mem_filter.mp ((filter_isNormal h).symm ▸
      (by simp : last ∈ init.concat last))
    have hlast : last ≠ [] ∧ last ≠ dot := of_decide_eq_true hlastFilter.2
    rw [List.concat_eq_append] at hrel hrelTrue ⊢
    rw [List.getLast?_concat] at hrel hrelTrue
    dsimp only at hrel hrelTrue
    by_cases hup : last = dotDot
    · rw [if_neg (by simp [hup]), List.append_nil] at hrel
      refine .inl ⟨.inr (.inr ((fileName_of_relativeElements hrel).trans hup)), ?_⟩
      rw [render, render, List.getLast?_concat]
      simp [hup]
    · rw [if_pos ⟨rfl, hup⟩] at hrelTrue
      cases slash with
      | true =>
          rw [if_pos ⟨rfl, hup⟩] at hrel
          exact .inl ⟨.inl (fileName_of_relativeElements hrel), rfl⟩
      | false =>
          rw [if_neg (by simp), List.append_nil] at hrel
          refine .inr ⟨?_, by rw [hrelTrue, hrel]⟩
          rw [fileName_of_relativeElements hrel]
          exact not_or.mpr ⟨hlast.1, not_or.mpr ⟨hlast.2, hup⟩⟩

section here

variable {tree : FileTree} {h : Hierarchy} {rooted : Bool} {names : List Bytes} {slash : Bool}
  (hacc : Accepted h rooted names slash) (hhere : h.relative = [] ∨ h.relative = dot)
include hacc hhere

theorem leaf_here : h.leaf = render rooted names true := by
  rw [Hierarchy.leaf, hacc.mount]
  exact lexicallyNormal_append_here hacc.normal hhere

omit hacc in
theorem below_here : h.below = [] := by
  rw [Hierarchy.below]
  rcases hhere with hrel | hrel <;> rw [hrel] <;> decide

omit hacc hhere in
/-- At the mount point itself there is one level, and its files are read as those of the process. -/
theorem walk_here (heq : h.leaf = h.mount) :
    walk h.mount (walkBound h.leaf) true h.leaf = some [(true, h.mount)] := by
  rw [walkBound, walk, if_pos (by rw [heq]; exact decide_eq_true rfl), heq]

omit hacc hhere in
theorem records_here (heq : h.leaf = h.mount) :
    h.records tree = h.names.filterMap (readLimitFile tree h.mount true h.mount) := by
  rw [Hierarchy.records, readHierarchy, walk_here heq]
  simp

omit hacc hhere in
/-- A file of the process that cannot be read is recorded as a failure. -/
theorem readLimitFile_current (mount leaf name : Bytes) :
    readLimitFile tree mount true leaf name =
      some ⟨.cgroupFile, append leaf name, (tree.read (append leaf name)).getD [],
        if (tree.read (append leaf name)).isSome then .success else .failed, none, none⟩ := by
  rw [readLimitFile, if_neg (by simp), if_neg (by simp)]
  dsimp only
  rcases tree.read (append leaf name) with _ | payload
  · exact if_neg fun hexempt => hexempt.1 rfl
  · rfl

theorem walksUp_here : WalksUp tree h ↔ Regular tree h := by
  rw [Regular, if_pos (below_here hhere)]
  have hleaf := leaf_here hacc hhere
  rcases render_slash_iff slash hacc.normal with ⟨hfile, heq⟩ | ⟨hfile, hrel⟩
  · rw [← hacc.mount] at hfile heq
    have hsame : h.leaf = h.mount := hleaf.trans heq
    rw [iff_true_intro hfile, true_and]
    constructor
    · rintro ⟨-, hmissing⟩ name hname hlimit hgone
      have hrecord : (⟨.cgroupFile, append h.mount name, [], .failed, none, none⟩ : RawEvidence) ∈
          h.records tree := by
        rw [records_here hsame]
        refine List.mem_filterMap.mpr ⟨name, hname, ?_⟩
        rw [readLimitFile_current, hgone.1]
        rfl
      have hstatus := hmissing _ hrecord
        (directory_parentPath_append (hacc.files name hname) h.mount)
        (by rw [fileName_append (hacc.files name hname).2]; exact hlimit) hgone
      cases hstatus
    · intro hall
      refine ⟨⟨_, walk_here hsame, ?_⟩, ?_⟩
      · rw [below_here hhere]
        simp
      · intro record hrecord _ hlimit hgone
        rw [records_here hsame] at hrecord
        obtain ⟨name, hname, hread⟩ := List.mem_filterMap.mp hrecord
        rw [readLimitFile_current] at hread
        obtain rfl := Option.some.inj hread
        rw [fileName_append (hacc.files name hname).2] at hlimit
        exact absurd hgone (hall name hname hlimit)
  · rw [← hacc.mount] at hfile hrel
    refine iff_of_false ?_ fun hregular => hfile hregular.1
    rintro ⟨⟨levels, hwalk, hvisits⟩, -⟩
    have habs : isAbsolute h.leaf = isAbsolute h.mount := by
      rw [hleaf, hacc.mount, (render_spec _ _ hacc.normal.isName).1, (render_spec _ _ hacc.normal.isName).1]
    obtain ⟨levels', hwalk', hlevels⟩ := walk_reaches habs (r := [[]]) (by rw [hleaf, hrel]) true
    obtain rfl := Option.some.inj (hwalk.symm.trans hwalk')
    have hlen := congrArg List.length hvisits
    rw [List.length_map, hlevels.length_eq, below_here hhere] at hlen
    simp at hlen

end here

/-! ### The process below the mount point -/

/-- The mount points that are met on the way up are those whose elements are their filenames; the others
are the dot, and paths that end with a separator. -/
theorem render_elements_cases {rooted : Bool} (slash : Bool) {names : List Bytes}
    (h : IsNormal rooted names) :
    (relativeElements (render rooted names slash) = names ∧
        (noRelativePart (render rooted names slash) = true ∨
          fileName (render rooted names slash) ≠ []) ∧ render rooted names slash ≠ dot) ∨
      (names = [] ∧ rooted = false ∧ render rooted names slash = dot) ∨
      (names ≠ [] ∧ relativeElements (render rooted names slash) = names ++ [[]] ∧
        ¬(noRelativePart (render rooted names slash) = true ∨
          fileName (render rooted names slash) ≠ [])) := by
  rcases List.eq_nil_or_concat names with rfl | ⟨init, last, rfl⟩
  · cases rooted with
    | true => exact .inl ⟨by cases slash <;> decide, by cases slash <;> decide, by cases slash <;> decide⟩
    | false => exact .inr (.inl ⟨rfl, rfl, by cases slash <;> rfl⟩)
  · have hrel := (render_spec rooted slash h.isName).2
    have hlastFilter := List.mem_filter.mp ((filter_isNormal h).symm ▸
      (by simp : last ∈ init.concat last))
    have hlast : last ≠ [] ∧ last ≠ dot := of_decide_eq_true hlastFilter.2
    rw [List.concat_eq_append] at hrel ⊢
    rw [List.getLast?_concat] at hrel
    dsimp only at hrel
    by_cases hslash : slash = true ∧ last ≠ dotDot
    · rw [if_pos hslash] at hrel
      refine .inr (.inr ⟨by simp, hrel, not_or.mpr ⟨?_, not_not.mpr (fileName_of_relativeElements hrel)⟩⟩)
      intro hall
      rw [relativeElements, if_pos hall] at hrel
      simp at hrel
    · rw [if_neg hslash, List.append_nil] at hrel
      refine .inl ⟨hrel, .inr ?_, ?_⟩
      · rw [fileName_of_relativeElements hrel]
        exact hlast.1
      · intro hdot
        rw [hdot] at hrel
        have hdotElements : relativeElements dot = [] ++ [dot] := by decide
        rw [hdotElements] at hrel
        exact hlast.2 (List.singleton_inj.mp (List.append_inj' hrel.symm rfl).2)

section below

variable {tree : FileTree} {h : Hierarchy} {rooted : Bool} {names : List Bytes} {slash : Bool}
  (hacc : Accepted h rooted names slash) {below : List Bytes} {slash' : Bool}
  (hbelow : Descends h.relative below slash')
include hacc hbelow

theorem leaf_below : isAbsolute h.leaf = rooted ∧
    relativeElements h.leaf = names ++ (below ++ if slash' then [[]] else []) := by
  have hleaf : h.leaf = render rooted (names ++ below) slash' := by
    rw [Hierarchy.leaf, hacc.mount]
    exact lexicallyNormal_append_below hacc.normal hbelow
  have hnames : ∀ n ∈ names ++ below, IsName n := by
    intro n hn
    rcases List.mem_append.mp hn with hn | hn
    · exact hacc.normal.isName n hn
    · exact (hbelow.plain n hn).1
  obtain ⟨habs, hrel⟩ := render_spec rooted slash' hnames
  rw [hleaf]
  refine ⟨habs, ?_⟩
  rcases List.eq_nil_or_concat below with hnil | ⟨init, last, hlast⟩
  · exact absurd hnil hbelow.nonempty
  · have hplain := hbelow.plain last (by simp [hlast])
    rw [hlast, List.concat_eq_append, ← List.append_assoc, List.getLast?_concat] at hrel
    dsimp only at hrel
    rw [hlast, List.concat_eq_append, ← List.append_assoc, hrel]
    simp only [and_iff_left hplain.2.2, List.append_assoc]

omit hacc in
theorem below_eq : h.below = below := by
  rw [Hierarchy.below, directory_descends hbelow]

omit hacc in
/-- A level more than there are directories. -/
theorem not_walksUp_of_length {levels : List (Bool × Bytes)}
    (hwalk : walk h.mount (walkBound h.leaf) true h.leaf = some levels)
    (hlen : below.length + 1 < levels.length) : ¬ WalksUp tree h := by
  rintro ⟨⟨levels', hwalk', hvisits⟩, -⟩
  obtain rfl := Option.some.inj (hwalk'.symm.trans hwalk)
  have hlen' := congrArg List.length hvisits
  rw [below_eq hbelow, List.length_map, List.length_map, List.length_reverse,
    List.length_inits] at hlen'
  omega

/-- The levels when the mount point is met. -/
theorem walk_meets (hmount : relativeElements h.mount = names) :
    ∃ levels, walk h.mount (walkBound h.leaf) true h.leaf = some levels ∧
      Levels h.leaf true levels
        ((below ++ if slash' then [[]] else []).inits.reverse.map (names ++ ·)) := by
  obtain ⟨habs, hrel⟩ := leaf_below hacc hbelow
  have hmountAbs : isAbsolute h.leaf = isAbsolute h.mount := by
    rw [habs, hacc.mount, (render_spec _ _ hacc.normal.isName).1]
  obtain ⟨levels, hwalk, hlevels⟩ := walk_reaches hmountAbs (by rw [hrel, hmount]) true
  rw [hmount] at hlevels
  exact ⟨levels, hwalk, hlevels⟩

/-- The levels when it is not met. -/
theorem walk_misses (hmount : relativeElements h.mount = [dot] ∧ names = [] ∨
      relativeElements h.mount = names ++ [[]]) :
    ∃ levels, walk h.mount (walkBound h.leaf) true h.leaf = some levels ∧
      Levels h.leaf true levels
        (names ++ (below ++ if slash' then [[]] else [])).inits.reverse := by
  obtain ⟨habs, hrel⟩ := leaf_below hacc hbelow
  have hmountAbs : isAbsolute h.leaf = isAbsolute h.mount := by
    rw [habs, hacc.mount, (render_spec _ _ hacc.normal.isName).1]
  have hroot : relativeElements h.mount ≠ [] := by
    rcases hmount with ⟨hmount, -⟩ | hmount <;> rw [hmount] <;> simp
  obtain ⟨first, rest, hfirst⟩ := List.exists_cons_of_ne_nil hbelow.nonempty
  have hplain := hbelow.plain first (by rw [hfirst]; exact List.mem_cons_self)
  -- the first name below the mount point is neither a dot nor empty
  have hnever : ∀ l, l <+: relativeElements h.leaf → l ≠ [] → l ≠ relativeElements h.mount := by
    rw [hrel, hfirst]
    rintro l hl hne heq
    rw [heq] at hl
    rcases hmount with ⟨hmount, hnil⟩ | hmount
    · rw [hmount, hnil, List.nil_append, List.cons_append, List.cons_prefix_cons] at hl
      exact hplain.2.1 hl.1.symm
    · rw [hmount, List.prefix_append_right_inj, List.cons_append, List.cons_prefix_cons] at hl
      exact hplain.1.1 hl.1.symm
  obtain ⟨levels, hwalk, hlevels⟩ := walk_overshoots hnever hroot hmountAbs true
  rw [hrel] at hlevels
  exact ⟨levels, hwalk, hlevels⟩

/-- The directories of prefixes of the way down. -/
theorem filter_descent {b : List Bytes} (hb : b <+: below) :
    (names ++ b).filter (fun e => decide (e ≠ [] ∧ e ≠ dot)) = names ++ b := by
  rw [List.filter_append, filter_isNormal hacc.normal]
  congr 1
  refine List.filter_eq_self.mpr fun n hn => decide_eq_true ?_
  have hplain := hbelow.plain n (hb.mem hn)
  exact ⟨hplain.1.1, hplain.2.1⟩

theorem visits_below {levels : List (Bool × Bytes)}
    (hlevels : Levels h.leaf true levels (below.inits.reverse.map (names ++ ·))) :
    levels.map (fun level => directory level.2) =
      h.below.inits.reverse.map fun b => ((directory h.mount).1, (directory h.mount).2 ++ b) := by
  rw [hlevels.directories, below_eq hbelow, hacc.mount, directory_render hacc.normal,
    (leaf_below hacc hbelow).1, List.map_map]
  refine List.map_congr_left fun b hb => ?_
  rw [List.mem_reverse, List.mem_inits] at hb
  exact congrArg (rooted, ·) (filter_descent hacc hbelow hb)

/-- A level whose directory is the mount point is not the first one. -/
theorem level_at_mount {levels : List (Bool × Bytes)}
    (hlevels : Levels h.leaf true levels (below.inits.reverse.map (names ++ ·)))
    (hslash : slash' = false) {level : Bool × Bytes} (hlevel : level ∈ levels)
    (hdir : directory level.2 = directory h.mount) :
    relativeElements level.2 = names ∧ level.1 = false := by
  have hmem : relativeElements level.2 ∈ below.inits.reverse.map (names ++ ·) := by
    rw [← hlevels.elements]
    exact List.mem_map_of_mem hlevel
  obtain ⟨b, hb, hb'⟩ := List.mem_map.mp hmem
  rw [List.mem_reverse, List.mem_inits] at hb
  have hbnil : b = [] := by
    rw [hacc.mount, directory_render hacc.normal, directory, ← hb', filter_descent hacc hbelow hb] at hdir
    have := congrArg Prod.snd hdir
    exact List.append_right_eq_self.mp this
  rw [hbnil, List.append_nil] at hb'
  refine ⟨hb'.symm, ?_⟩
  obtain ⟨rest, rfl, hrest⟩ := hlevels.first
  rcases List.mem_cons.mp hlevel with rfl | hlevel
  · have hrel := (leaf_below hacc hbelow).2
    rw [hslash, if_neg Bool.false_ne_true, List.append_nil] at hrel
    dsimp only at hb'
    rw [hrel] at hb'
    exact absurd (List.append_right_eq_self.mp hb'.symm) hbelow.nonempty
  · exact hrest level hlevel

/-- Where the mount point is met, the reader does what it should. -/
theorem walksUp_meets (hslash : slash' = false) (hmount : relativeElements h.mount = names) :
    WalksUp tree h := by
  obtain ⟨levels, hwalk, hlevels⟩ := walk_meets hacc hbelow hmount
  rw [hslash, if_neg Bool.false_ne_true, List.append_nil] at hlevels
  refine ⟨⟨levels, hwalk, visits_below hacc hbelow hlevels⟩, ?_⟩
  intro record hrecord hdir hlimit hgone
  rw [Hierarchy.records, readHierarchy, hwalk] at hrecord
  obtain ⟨level, hlevel, hrecord⟩ := List.mem_flatMap.mp hrecord
  obtain ⟨name, hname, hread⟩ := List.mem_filterMap.mp hrecord
  rw [readLimitFile] at hread
  split at hread
  · cases hread
  split at hread
  · cases hread
  dsimp only at hread
  split at hread
  · rename_i hpayload
    obtain rfl := Option.some.inj hread
    rw [hgone.1] at hpayload
    cases hpayload
  · split at hread
    · obtain rfl := Option.some.inj hread
      rfl
    · rename_i hexempt
      obtain rfl := Option.some.inj hread
      rw [directory_parentPath_append (hacc.files name hname)] at hdir
      obtain ⟨hrel, hfirst⟩ := level_at_mount hacc hbelow hlevels hslash hlevel hdir
      have habs : isAbsolute level.2 = isAbsolute h.mount := by
        rw [hlevels.absolute level hlevel, (leaf_below hacc hbelow).1, hacc.mount,
          (render_spec _ _ hacc.normal.isName).1]
      refine absurd ⟨by simp [hfirst], ?_, hgone.2⟩ hexempt
      rw [sameElements_iff habs, hrel, hmount]

/-- Below the mount point `.` the walk ends at the empty path, which is not taken for the mount point:
the files that are missing there are recorded as failures. -/
theorem walksUp_dot (hslash : slash' = false) (hnames : names = []) (hrooted : rooted = false)
    (hmount : h.mount = dot) :
    WalksUp tree h ↔ ∀ name ∈ h.names, name ∈ limitFiles →
      ¬(name = utf8 "memory.limit_in_bytes" ∧
        (tree.read (utf8 "memory.use_hierarchy")).any (Bytes.startsWith · (utf8 "0"))) →
        ¬ Missing tree name := by
  have hmountRel : relativeElements h.mount = [dot] := by
    rw [hmount]
    decide
  obtain ⟨levels, hwalk, hlevels⟩ := walk_misses hacc hbelow (.inl ⟨hmountRel, hnames⟩)
  rw [hslash, if_neg Bool.false_ne_true, List.append_nil] at hlevels
  have hlevels' : Levels h.leaf true levels (below.inits.reverse.map (names ++ ·)) := by
    rw [hnames] at hlevels ⊢
    simpa using hlevels
  have hrecords : h.records tree = levels.flatMap fun level =>
      h.names.filterMap (readLimitFile tree h.mount level.1 level.2) := by
    rw [Hierarchy.records, readHierarchy, hwalk]
    rfl
  have hleafAbs := (leaf_below hacc hbelow).1
  have happend : ∀ name : Bytes, append [] name = name := by
    intro name
    rw [append]
    split <;> rfl
  constructor
  · rintro ⟨-, hmissing⟩ name hname hlimit hread hgone
    -- the last level is the empty path
    have hlast : ([] : List Bytes) ∈ levels.map fun level => relativeElements level.2 := by
      rw [hlevels.elements, hnames, List.mem_reverse, List.mem_inits]
      exact List.nil_prefix
    obtain ⟨level, hlevel, hrel⟩ := List.mem_map.mp hlast
    have hempty : level.2 = [] :=
      eq_nil_of_relative ((hlevels.absolute level hlevel).trans (hleafAbs.trans hrooted)) hrel
    have hdir : directory level.2 = directory h.mount := by
      rw [hempty, hmount]
      decide
    obtain ⟨-, hfirst⟩ := level_at_mount hacc hbelow hlevels' hslash hlevel hdir
    have hrecord : (⟨.cgroupFile, name, [], .failed, none, none⟩ : RawEvidence) ∈ h.records tree := by
      rw [hrecords]
      refine List.mem_flatMap.mpr ⟨level, hlevel, List.mem_filterMap.mpr ⟨name, hname, ?_⟩⟩
      rw [hfirst, hempty, hmount, readLimitFile, happend, happend, if_neg, if_neg]
      · dsimp only
        rw [hgone.1]
        exact if_neg fun hexempt => absurd hexempt.2.1 (by decide)
      · rintro ⟨-, rfl | rfl⟩ <;> exact absurd hlimit (by decide)
      · exact fun hskip => hread hskip.2
    have hfile : directory (parentPath name) = directory h.mount := by
      have := directory_parentPath_append (hacc.files name hname) []
      rw [happend] at this
      rw [this, hmount]
      decide
    have hself : fileName name = name := by
      have := fileName_append (p := []) (hacc.files name hname).2
      rwa [happend] at this
    have hstatus := hmissing _ hrecord hfile (by rw [hself]; exact hlimit) hgone
    cases hstatus
  · intro hall
    refine ⟨⟨levels, hwalk, visits_below hacc hbelow hlevels'⟩, ?_⟩
    intro record hrecord hdir hlimit hgone
    rw [hrecords] at hrecord
    obtain ⟨level, hlevel, hrecord⟩ := List.mem_flatMap.mp hrecord
    obtain ⟨name, hname, hread⟩ := List.mem_filterMap.mp hrecord
    rw [readLimitFile] at hread
    split at hread
    · cases hread
    rename_i hskip
    split at hread
    · cases hread
    have hpath : record.pathOrCommand = append level.2 name := by
      dsimp only at hread
      split at hread
      · rw [← Option.some.inj hread]
      · split at hread <;> rw [← Option.some.inj hread]
    rw [hpath, directory_parentPath_append (hacc.files name hname)] at hdir
    obtain ⟨hrel, hfirst⟩ := level_at_mount hacc hbelow hlevels' hslash hlevel hdir
    have hempty : level.2 = [] :=
      eq_nil_of_relative ((hlevels.absolute level hlevel).trans (hleafAbs.trans hrooted))
        (hrel.trans hnames)
    rw [hpath, fileName_append (hacc.files name hname).2] at hlimit
    rw [hpath, hempty, happend] at hgone
    rw [hempty, happend] at hskip
    refine absurd hgone (hall name hname hlimit fun hread => hskip ⟨?_, hread⟩)
    rw [hfirst]
    exact Bool.false_ne_true

theorem walksUp_below : WalksUp tree h ↔ Regular tree h := by
  rw [Regular, if_neg (by rw [below_eq hbelow]; exact hbelow.nonempty)]
  have hfile := fileName_descends hbelow
  have hcases := render_elements_cases slash hacc.normal
  rw [← hacc.mount] at hcases
  cases hslash : slash' with
  | true =>
      rw [hslash] at hfile
      refine iff_of_false ?_ fun hregular => hregular.1 (hfile.mpr rfl)
      rcases hcases with ⟨hmount, -, -⟩ | ⟨hnames, hrooted, hmount⟩ | ⟨hnames, hmount, -⟩
      · obtain ⟨levels, hwalk, hlevels⟩ := walk_meets hacc hbelow hmount
        refine not_walksUp_of_length hbelow hwalk ?_
        rw [hlevels.length_eq, hslash]
        simp
      · obtain ⟨levels, hwalk, hlevels⟩ := walk_misses hacc hbelow
          (.inl ⟨by rw [hmount]; decide, hnames⟩)
        refine not_walksUp_of_length hbelow hwalk ?_
        rw [hlevels.length_eq, hslash, hnames]
        simp
      · obtain ⟨levels, hwalk, hlevels⟩ := walk_misses hacc hbelow (.inr hmount)
        refine not_walksUp_of_length hbelow hwalk ?_
        rw [hlevels.length_eq, hslash]
        simp
  | false =>
      rw [hslash] at hfile
      have hfile' : fileName h.relative ≠ [] := fun hnil => Bool.false_ne_true (hfile.mp hnil)
      rcases hcases with ⟨hmount, hclosed, hdot⟩ | ⟨hnames, hrooted, hmount⟩ | ⟨hnames, hmount, hopen⟩
      · exact iff_of_true (walksUp_meets hacc hbelow hslash hmount)
          ⟨hfile', hclosed, fun heq => absurd heq hdot⟩
      · rw [walksUp_dot hacc hbelow hslash hnames hrooted hmount]
        constructor
        · intro hall
          refine ⟨hfile', .inr ?_, fun _ => hall⟩
          rw [hmount]
          decide
        · exact fun hregular => hregular.2.2 hmount
      · refine iff_of_false ?_ fun hregular => hopen hregular.2.1
        obtain ⟨levels, hwalk, hlevels⟩ := walk_misses hacc hbelow (.inr hmount)
        refine not_walksUp_of_length hbelow hwalk ?_
        have hpos := List.length_pos_iff.mpr hnames
        rw [hlevels.length_eq, hslash]
        simp
        omega

end below

/-- **The walk up a hierarchy**: for every mount table, membership and tree, each accepted hierarchy is
read as intended exactly when its form is regular. -/
theorem walksUp_iff (tree : FileTree) (mountinfo membership : Bytes) (h : Hierarchy)
    (hmem : h ∈ hierarchies mountinfo membership) : WalksUp tree h ↔ Regular tree h := by
  obtain ⟨rooted, names, slash, hacc⟩ := accepted_of_mem hmem
  rcases hacc.relative with hrel | hrel | ⟨below, slash', hbelow⟩
  · exact walksUp_here hacc (.inl hrel)
  · exact walksUp_here hacc (.inr hrel)
  · exact walksUp_below hacc hbelow

/-- A tree without any file. -/
def emptyTree : FileTree := { read := fun _ => none, existence := fun _ => some false }

/-- The unified hierarchy, mounted at its root. -/
def unifiedMount : Bytes := utf8 "30 23 0:26 / /sys/fs/cgroup rw,nosuid - cgroup2 cgroup2 rw\n"

/-- A process below the mount point is handled as intended. -/
theorem walksUp_iff_slice :
    WalksUp emptyTree ⟨utf8 "/sys/fs/cgroup", utf8 "user.slice", hierarchyNames true [] []⟩ :=
  (walksUp_iff emptyTree unifiedMount (utf8 "0::/user.slice\n") _ (by decide +kernel)).mpr
    ⟨by decide +kernel, by decide +kernel, fun h => absurd h (by decide +kernel)⟩

/-- A process at the root of the hierarchy: the mount point is visited twice, and its missing quota
files are recorded as failures. -/
theorem not_walksUp_root :
    (⟨.cgroupFile, utf8 "/sys/fs/cgroup/cpu.max", [], .failed, none, none⟩ : RawEvidence) ∈
        (hierarchies unifiedMount (utf8 "0::/\n")).flatMap (·.records emptyTree) ∧
      ¬ ∀ h ∈ hierarchies unifiedMount (utf8 "0::/\n"), WalksUp emptyTree h := by
  have hall : hierarchies unifiedMount (utf8 "0::/\n") =
      [⟨utf8 "/sys/fs/cgroup", [], hierarchyNames true [] []⟩] := by decide +kernel
  rw [hall]
  refine ⟨by decide +kernel, fun hwalks => ?_⟩
  obtain ⟨⟨levels, hwalk, hvisits⟩, -⟩ := hwalks _ List.mem_cons_self
  have hlevels : levels = [(true, utf8 "/sys/fs/cgroup/"), (false, utf8 "/sys/fs/cgroup")] :=
    Option.some.inj (hwalk.symm.trans (by decide +kernel))
  rw [hlevels] at hvisits
  exact absurd (congrArg List.length hvisits) (by decide +kernel)

end CgroupReader

end Sysal
