import Mathlib.Data.List.Induction
import Sysal.Foundation.Tokens

/-!
# Paths of the standard library

`std::filesystem::path` on a system without root names.  A path is its pathname; the standard defines
its operations through the elements it is iterated by: the root directory, the filenames, and an empty
last filename behind a trailing separator.

* `relativeElements_parentPath`: the parent has one element less.
* `relativeElements_append`: appending a relative path appends its elements.
* `relativeElements_render`: a pathname written out from its filenames has these elements.
-/

namespace Sysal.FsPath

open Sysal

/-! ### Elements -/

/-- `is_absolute`, which is `has_root_directory` here. -/
def isAbsolute (p : Bytes) : Bool := p.head? = some 47

/-- `filename`: what follows the last separator. -/
def fileName (p : Bytes) : Bytes := p.rtakeWhile (· ≠ 47)

/-- What precedes the filename, the last separator included. -/
def dirPart (p : Bytes) : Bytes := p.rdropWhile (· ≠ 47)

/-- A pathname of separators only, or of nothing: one without a relative part. -/
def noRelativePart (p : Bytes) : Bool := p.all (· = 47)

/-- The names between separators. -/
def namesOf (d : Bytes) : List Bytes := (d.splitOn 47).filter (· ≠ [])

/-- The elements of the relative part. -/
def relativeElements (p : Bytes) : List Bytes :=
  if noRelativePart p then [] else namesOf (dirPart p) ++ [fileName p]

/-- The elements a path is iterated by. -/
def elements (p : Bytes) : List Bytes :=
  (if isAbsolute p then [[47]] else []) ++ relativeElements p

/-- `operator==`: equal element by element. -/
def sameElements (p q : Bytes) : Bool := elements p = elements q

/-! ### Operations -/

/-- `parent_path`: the longest prefix with one element less, or the path itself when it has no relative
part. -/
def parentPath (p : Bytes) : Bytes :=
  if noRelativePart p then p
  else
    let stripped := (dirPart p).rdropWhile (· = 47)
    if stripped = [] then dirPart p else stripped

/-- `operator/`: a separator is put in only behind a filename. -/
def append (p q : Bytes) : Bytes :=
  if isAbsolute q then q else if fileName p = [] then p ++ q else p ++ 47 :: q

/-- The two special filenames. -/
def dot : Bytes := [46]
def dotDot : Bytes := [46, 46]

/-- One element of the normal form: the filenames so far, and whether a separator follows them. -/
def normalStep (rooted : Bool) (s : List Bytes × Bool) (element : Bytes) : List Bytes × Bool :=
  if element = [] ∨ element = dot then (s.1, true)
  else if element = dotDot then
    match s.1.getLast? with
    | some last =>
        if last = dotDot then (s.1 ++ [dotDot], false) else (s.1.dropLast, true)
    | none => if rooted then s else ([dotDot], false)
  else (s.1 ++ [element], false)

/-- A pathname written out; the separator behind a last dot-dot is left out. -/
def render (rooted : Bool) (names : List Bytes) (slash : Bool) : Bytes :=
  match names.getLast? with
  | none => if rooted then [47] else dot
  | some last =>
      (if rooted then [47] else []) ++ names.dropLast.flatMap (· ++ [47]) ++ last ++
        if slash ∧ last ≠ dotDot then [47] else []

/-- `lexically_normal`. -/
def lexicallyNormal (p : Bytes) : Bytes :=
  if p = [] then []
  else
    let normal := (relativeElements p).foldl (normalStep (isAbsolute p)) ([], false)
    render (isAbsolute p) normal.1 normal.2

/-- The elements behind the first mismatch of two paths. -/
def mismatch : List Bytes → List Bytes → List Bytes × List Bytes
  | a :: as, b :: bs => if a = b then mismatch as bs else (a :: as, b :: bs)
  | as, bs => (as, bs)

/-- `lexically_relative`. -/
def lexicallyRelative (p base : Bytes) : Bytes :=
  if isAbsolute p ≠ isAbsolute base then []
  else
    let (a, b) := mismatch (elements p) (elements base)
    if a = [] ∧ b = [] then dot
    else
      let ups := b.countP (fun e => e ≠ [] ∧ e ≠ dot ∧ e ≠ dotDot)
      let downs := b.countP (· = dotDot)
      if ups < downs then []
      else if ups = downs ∧ (a = [] ∨ a.head? = some []) then dot
      else (List.replicate (ups - downs) dotDot ++ a).foldl append []

example : lexicallyNormal (utf8 "/a/./b/../c//") = utf8 "/a/c/" := by decide
example : lexicallyNormal (utf8 "/sys/fs/cgroup/.") = utf8 "/sys/fs/cgroup/" := by decide
example : lexicallyRelative (utf8 "/a/d") (utf8 "/a/b/c") = utf8 "../../d" := by decide
example : elements (utf8 "/a//b/") = [utf8 "/", utf8 "a", utf8 "b", []] := by decide

/-! ### The parts of a pathname -/

theorem dirPart_append_fileName (p : Bytes) : dirPart p ++ fileName p = p :=
  List.rdropWhile_append_rtakeWhile

theorem fileName_no_slash (p : Bytes) : ∀ c ∈ fileName p, c ≠ 47 := fun c hc => by
  simpa using List.mem_rtakeWhile_imp hc

/-- Directory part and filename are where the last separator puts them. -/
theorem dirPart_fileName_of_split {d n : Bytes} (hd : d = [] ∨ ∃ d', d = d' ++ [47])
    (hn : ∀ c ∈ n, c ≠ 47) : dirPart (d ++ n) = d ∧ fileName (d ++ n) = n := by
  have hfile : fileName (d ++ n) = n := by
    induction n using List.reverseRecOn with
    | nil =>
        rcases hd with rfl | ⟨d', rfl⟩
        · rfl
        · rw [fileName, List.append_nil, List.rtakeWhile_concat_neg]
          simp
    | append_singleton n c ih =>
        have hc : c ≠ 47 := hn c (by simp)
        rw [fileName, ← List.append_assoc, List.rtakeWhile_concat_pos _ _ _ (by simpa using hc)]
        exact congrArg (· ++ [c]) (ih fun c hc => hn c (by simp [hc]))
  refine ⟨?_, hfile⟩
  have hsplit := dirPart_append_fileName (d ++ n)
  rw [hfile] at hsplit
  exact List.append_cancel_right hsplit

/-- The directory part is empty or ends with a separator. -/
theorem dirPart_closed (p : Bytes) : dirPart p = [] ∨ ∃ d, dirPart p = d ++ [47] := by
  rcases List.eq_nil_or_concat (dirPart p) with h | ⟨d, c, h⟩
  · exact .inl h
  · refine .inr ⟨d, ?_⟩
    rw [dirPart] at h ⊢
    have hlast := List.rdropWhile_last_not (fun c : UInt8 => decide (c ≠ 47)) p (by rw [h]; simp)
    simp only [h, List.concat_eq_append, List.getLast_append, List.getLast_singleton] at hlast
    have hc : c = 47 := by simpa using hlast
    rw [h, hc, List.concat_eq_append]

theorem fileName_append {p n : Bytes} (hn : ∀ c ∈ n, c ≠ 47) : fileName (append p n) = n := by
  have hrel : isAbsolute n = false := by
    cases n with
    | nil => rfl
    | cons c n =>
        have := hn c List.mem_cons_self
        simpa [isAbsolute] using this
  rw [append, hrel]
  simp only [Bool.false_eq_true, if_false]
  by_cases hp : fileName p = []
  · rw [if_pos hp]
    refine (dirPart_fileName_of_split ?_ hn).2
    have := dirPart_append_fileName p
    rw [hp, List.append_nil] at this
    rw [← this]
    exact dirPart_closed p
  · rw [if_neg hp, show p ++ 47 :: n = (p ++ [47]) ++ n by simp]
    exact (dirPart_fileName_of_split (.inr ⟨p, rfl⟩) hn).2

/-! ### Names between separators -/

theorem namesOf_append_slash (a b : Bytes) : namesOf (a ++ 47 :: b) = namesOf a ++ namesOf b := by
  rw [namesOf, namesOf, namesOf, List.splitOn_eq_splitOnP, List.splitOn_eq_splitOnP,
    List.splitOn_eq_splitOnP, List.splitOnP_append_cons _ _ (by decide), List.filter_append]

theorem namesOf_nil : namesOf [] = [] := by decide

theorem namesOf_concat_slash (a : Bytes) : namesOf (a ++ [47]) = namesOf a := by
  rw [namesOf_append_slash, namesOf_nil, List.append_nil]

theorem namesOf_name {n : Bytes} (hn : ∀ c ∈ n, c ≠ 47) (hne : n ≠ []) : namesOf n = [n] := by
  rw [namesOf, List.splitOn_eq_splitOnP, List.splitOnP_eq_singleton (by simpa using hn)]
  simp [hne]

theorem namesOf_slashes {s : Bytes} (h : ∀ c ∈ s, c = 47) : namesOf s = [] := by
  induction s using List.reverseRecOn with
  | nil => exact namesOf_nil
  | append_singleton s c ih =>
      rw [h c (by simp), namesOf_concat_slash]
      exact ih fun c hc => h c (by simp [hc])

/-- Separators at the end do not count. -/
theorem namesOf_append_slashes (a : Bytes) {s : Bytes} (h : ∀ c ∈ s, c = 47) :
    namesOf (a ++ s) = namesOf a := by
  induction s using List.reverseRecOn with
  | nil => rw [List.append_nil]
  | append_singleton s c ih =>
      rw [h c (by simp), ← List.append_assoc, namesOf_concat_slash]
      exact ih fun c hc => h c (by simp [hc])

/-- A directory part and what follows it. -/
theorem namesOf_append_of_closed {d : Bytes} (hd : d = [] ∨ ∃ d', d = d' ++ [47]) (b : Bytes) :
    namesOf (d ++ b) = namesOf d ++ namesOf b := by
  rcases hd with rfl | ⟨d', rfl⟩
  · rw [namesOf_nil]
    rfl
  · rw [List.append_assoc, List.singleton_append, namesOf_append_slash, namesOf_concat_slash]

theorem namesOf_eq (p : Bytes) :
    namesOf p = namesOf (dirPart p) ++ if fileName p = [] then [] else [fileName p] := by
  conv_lhs => rw [← dirPart_append_fileName p, namesOf_append_of_closed (dirPart_closed p)]
  by_cases h : fileName p = []
  · rw [if_pos h, h, namesOf_nil]
  · rw [if_neg h, namesOf_name (fileName_no_slash p) h]

theorem noRelativePart_iff {p : Bytes} : noRelativePart p = true ↔ ∀ c ∈ p, c = 47 := by
  rw [noRelativePart, List.all_eq_true]
  simp

theorem fileName_of_noRelativePart {p : Bytes} (h : noRelativePart p = true) : fileName p = [] := by
  refine List.eq_nil_iff_forall_not_mem.mpr fun c hc => fileName_no_slash p c hc ?_
  exact noRelativePart_iff.mp h c (List.rtakeWhile_suffix _ _ |>.mem hc)

theorem relativeElements_eq {p : Bytes} (h : noRelativePart p = false) :
    relativeElements p = namesOf (dirPart p) ++ [fileName p] :=
  if_neg (by rw [h]; exact Bool.false_ne_true)

/-- The names of a path are its elements without the empty last one. -/
theorem filter_relativeElements (p : Bytes) :
    (relativeElements p).filter (· ≠ []) = namesOf p := by
  rw [relativeElements]
  by_cases h : noRelativePart p = true
  · rw [if_pos h, namesOf_slashes (noRelativePart_iff.mp h)]
    rfl
  · have hself : (namesOf (dirPart p)).filter (· ≠ []) = namesOf (dirPart p) := by
      rw [namesOf, List.filter_filter]
      simp
    rw [if_neg h, List.filter_append, hself, namesOf_eq p]
    by_cases hf : fileName p = [] <;> simp [hf]

/-- A path without a relative part is one without names. -/
theorem noRelativePart_iff_namesOf {p : Bytes} : noRelativePart p = true ↔ namesOf p = [] := by
  constructor
  · exact fun h => namesOf_slashes (noRelativePart_iff.mp h)
  · intro h
    rw [noRelativePart_iff]
    induction p using List.reverseRecOn with
    | nil => simp
    | append_singleton p c ih =>
        by_cases hc : c = 47
        · rw [hc, namesOf_concat_slash] at h
          intro x hx
          rcases List.mem_append.mp hx with hx | hx
          · exact ih h x hx
          · rw [List.mem_singleton.mp hx, hc]
        · have hfile : fileName (p ++ [c]) ≠ [] := by
            rw [fileName, List.rtakeWhile_concat_pos _ _ _ (by simpa using hc)]
            simp
          rw [namesOf_eq, if_neg hfile] at h
          simp at h

/-- The elements of a pathname that is split at its last separator. -/
theorem relativeElements_of_split {d n : Bytes} (hd : d = [] ∨ ∃ d', d = d' ++ [47])
    (hn : ∀ c ∈ n, c ≠ 47) (h : noRelativePart (d ++ n) = false) :
    relativeElements (d ++ n) = namesOf d ++ [n] := by
  obtain ⟨hdir, hfile⟩ := dirPart_fileName_of_split hd hn
  rw [relativeElements_eq h, hdir, hfile]

/-! ### The parent -/

theorem isAbsolute_append_left {p : Bytes} (hp : p ≠ []) (q : Bytes) :
    isAbsolute (p ++ q) = isAbsolute p := by
  obtain ⟨c, t, rfl⟩ := List.exists_cons_of_ne_nil hp
  rfl

/-- **The parent** of a path with a relative part has one element less, and the same root. -/
theorem relativeElements_parentPath {p : Bytes} (h : noRelativePart p = false) :
    relativeElements (parentPath p) = (relativeElements p).dropLast ∧
      isAbsolute (parentPath p) = isAbsolute p := by
  have hsplit := dirPart_append_fileName p
  rw [relativeElements_eq h, List.dropLast_concat, parentPath,
    if_neg (show ¬ noRelativePart p = true by rw [h]; exact Bool.false_ne_true)]
  set stripped := (dirPart p).rdropWhile (fun c => decide (c = 47)) with hstripped
  have hslashes : ∀ c ∈ (dirPart p).rtakeWhile (fun c => decide (c = 47)), c = 47 := fun c hc => by
    simpa using List.mem_rtakeWhile_imp hc
  have hdir : stripped ++ (dirPart p).rtakeWhile (fun c => decide (c = 47)) = dirPart p :=
    List.rdropWhile_append_rtakeWhile
  by_cases hnil : stripped = []
  · -- the directory part is the root directory or empty
    rw [if_pos hnil]
    rw [hnil, List.nil_append] at hdir
    rw [hdir] at hslashes
    refine ⟨?_, ?_⟩
    · rw [relativeElements, if_pos (noRelativePart_iff.mpr hslashes), namesOf_slashes hslashes]
    · by_cases hdnil : dirPart p = []
      · rw [hdnil, List.nil_append] at hsplit
        rw [hdnil]
        cases hp : p with
        | nil => rfl
        | cons c t =>
            have hc := fileName_no_slash p c (by rw [hsplit, hp]; exact List.mem_cons_self)
            simpa [isAbsolute] using hc
      · rw [← isAbsolute_append_left hdnil (fileName p), hsplit]
  · rw [if_neg hnil]
    have hlast : fileName stripped ≠ [] := by
      intro hfile
      have hconcat := dirPart_append_fileName stripped
      rw [hfile, List.append_nil] at hconcat
      rcases dirPart_closed stripped with hd | ⟨d, hd⟩
      · exact hnil (hconcat.symm.trans hd)
      · have hend := List.rdropWhile_last_not (fun c : UInt8 => decide (c = 47)) (dirPart p) hnil
        have hs : stripped = d ++ [47] := hconcat.symm.trans hd
        simp only [← hstripped, hs, List.getLast_append, List.getLast_singleton] at hend
        simp at hend
    refine ⟨?_, ?_⟩
    · have hnames : namesOf (dirPart p) = namesOf stripped := by
        rw [← hdir, namesOf_append_slashes _ hslashes]
      rw [hnames, namesOf_eq stripped, if_neg hlast, relativeElements, if_neg]
      intro hall
      exact hlast (fileName_of_noRelativePart hall)
    · rw [← isAbsolute_append_left hnil, hdir]
      have hdnil : dirPart p ≠ [] := by
        intro hdnil
        rw [hdnil] at hdir
        exact hnil (List.append_eq_nil_iff.mp hdir).1
      rw [← isAbsolute_append_left hdnil (fileName p), hsplit]

theorem parentPath_of_noRelativePart {p : Bytes} (h : noRelativePart p = true) : parentPath p = p :=
  if_pos h

/-! ### Appending -/

theorem isAbsolute_append {p q : Bytes} (hq : isAbsolute q = false) :
    isAbsolute (append p q) = isAbsolute p := by
  rw [append, if_neg (by rw [hq]; exact Bool.false_ne_true)]
  rcases p with _ | ⟨c, p⟩
  · exact hq
  · split <;> rfl

/-- A path that ends in the directory part of an appended path. -/
theorem append_eq {p q : Bytes} (hq : isAbsolute q = false) :
    ∃ d, (d = [] ∨ ∃ d', d = d' ++ [47]) ∧ namesOf d = namesOf p ∧ append p q = d ++ q := by
  rw [append, if_neg (by rw [hq]; exact Bool.false_ne_true)]
  by_cases hp : fileName p = []
  · rw [if_pos hp]
    have hclosed := dirPart_append_fileName p
    rw [hp, List.append_nil] at hclosed
    exact ⟨p, by rw [← hclosed]; exact dirPart_closed p, rfl, rfl⟩
  · rw [if_neg hp]
    exact ⟨p ++ [47], .inr ⟨p, rfl⟩, namesOf_concat_slash p, by simp⟩

/-- **Appending** a relative path appends its elements to the names. -/
theorem relativeElements_append {p q : Bytes} (hq : isAbsolute q = false) (hne : q ≠ []) :
    relativeElements (append p q) = namesOf p ++ relativeElements q := by
  have hqrel : noRelativePart q = false := by
    obtain ⟨c, t, rfl⟩ := List.exists_cons_of_ne_nil hne
    have hc : c ≠ 47 := by simpa [isAbsolute] using hq
    simp [noRelativePart, hc]
  obtain ⟨d, hd, hnames, happend⟩ := append_eq (p := p) hq
  have hclosed : d ++ dirPart q = [] ∨ ∃ d', d ++ dirPart q = d' ++ [47] := by
    rcases dirPart_closed q with hdir | ⟨d', hdir⟩
    · rw [hdir, List.append_nil]
      exact hd
    · exact .inr ⟨d ++ d', by rw [hdir, List.append_assoc]⟩
  have hnamesOf : namesOf (d ++ dirPart q) = namesOf p ++ namesOf (dirPart q) := by
    rw [namesOf_append_of_closed hd, hnames]
  have hrel : noRelativePart (d ++ q) = false := by
    rw [noRelativePart, List.all_append, ← noRelativePart, ← noRelativePart, hqrel, Bool.and_false]
  rw [happend]
  rw [← dirPart_append_fileName q, ← List.append_assoc] at hrel ⊢
  rw [relativeElements_of_split hclosed (fileName_no_slash q) hrel, hnamesOf, dirPart_append_fileName,
    relativeElements_eq hqrel, List.append_assoc]

/-- Appending the empty path puts a separator behind the last name. -/
theorem relativeElements_append_nil (p : Bytes) :
    relativeElements (append p []) = if namesOf p = [] then [] else namesOf p ++ [[]] := by
  obtain ⟨d, hd, hnames, happend⟩ := append_eq (p := p) (q := []) rfl
  rw [happend, ← hnames]
  by_cases h : namesOf d = []
  · rw [if_pos h, List.append_nil, relativeElements, if_pos (noRelativePart_iff_namesOf.mpr h)]
  · rw [if_neg h, relativeElements_of_split hd (by simp)]
    rw [List.append_nil, ← Bool.not_eq_true, noRelativePart_iff_namesOf]
    exact h

/-! ### Written paths -/

/-- A filename: not empty and without a separator. -/
def IsName (n : Bytes) : Prop := n ≠ [] ∧ ∀ c ∈ n, c ≠ 47

theorem namesOf_flatMap {names : List Bytes} (h : ∀ n ∈ names, IsName n) :
    namesOf (names.flatMap (· ++ [47])) = names := by
  induction names with
  | nil => exact namesOf_nil
  | cons n names ih =>
      have hn := h n List.mem_cons_self
      rw [List.flatMap_cons, List.append_assoc, List.singleton_append, namesOf_append_slash,
        namesOf_name hn.2 hn.1, ih fun n hn => h n (List.mem_cons_of_mem _ hn)]
      rfl

/-- What can be read off a pathname that is written out. -/
theorem render_spec (rooted slash : Bool) {names : List Bytes} (h : ∀ n ∈ names, IsName n) :
    isAbsolute (render rooted names slash) = rooted ∧
      relativeElements (render rooted names slash) =
        match names.getLast? with
        | none => if rooted then [] else [dot]
        | some last => names ++ if slash ∧ last ≠ dotDot then [[]] else [] := by
  rcases List.eq_nil_or_concat names with rfl | ⟨init, last, rfl⟩
  · cases rooted <;> cases slash <;> exact ⟨by decide, by decide⟩
  · rw [List.concat_eq_append] at h ⊢
    have hlast := h last (by simp)
    have hinit : ∀ n ∈ init, IsName n := fun n hn => h n (by simp [hn])
    rw [render, List.getLast?_concat]
    dsimp only
    rw [List.dropLast_concat]
    set root : Bytes := if rooted then [47] else [] with hroot
    set dirs := root ++ init.flatMap (· ++ [47]) with hdirs
    have hrootNames : namesOf root = [] := by
      cases rooted <;> decide
    have hrootClosed : root = [] ∨ ∃ d', root = d' ++ [47] := by
      cases rooted
      · exact .inl rfl
      · exact .inr ⟨[], rfl⟩
    have hdirsClosed : dirs = [] ∨ ∃ d', dirs = d' ++ [47] := by
      rcases List.eq_nil_or_concat init with rfl | ⟨i, l, rfl⟩
      · rw [hdirs, List.flatMap_nil, List.append_nil]
        exact hrootClosed
      · exact .inr ⟨root ++ i.flatMap (· ++ [47]) ++ l, by simp [hdirs, List.flatMap_append]⟩
    have hdirsNames : namesOf dirs = init := by
      rw [hdirs, namesOf_append_of_closed hrootClosed, hrootNames, namesOf_flatMap hinit]
      rfl
    have hrel : ∀ s : Bytes, noRelativePart (dirs ++ last ++ s) = false := by
      intro s
      obtain ⟨c, t, heq⟩ := List.exists_cons_of_ne_nil hlast.1
      have hc := hlast.2 c (by rw [heq]; exact List.mem_cons_self)
      rw [heq, noRelativePart]
      simp [hc]
    have habs : ∀ s : Bytes, isAbsolute (dirs ++ last ++ s) = rooted := by
      intro s
      cases rooted with
      | true => rfl
      | false =>
          rcases init with _ | ⟨n, init⟩
          · obtain ⟨c, t, heq⟩ := List.exists_cons_of_ne_nil hlast.1
            have hc := hlast.2 c (by rw [heq]; exact List.mem_cons_self)
            simp [hdirs, hroot, heq, isAbsolute, hc]
          · have hn := hinit n List.mem_cons_self
            obtain ⟨c, t, heq⟩ := List.exists_cons_of_ne_nil hn.1
            have hc := hn.2 c (by rw [heq]; exact List.mem_cons_self)
            simp [hdirs, hroot, heq, isAbsolute, hc]
    by_cases hslash : slash = true ∧ last ≠ dotDot
    · rw [if_pos hslash, if_pos hslash]
      refine ⟨habs [47], ?_⟩
      have hclosed := relativeElements_of_split (d := dirs ++ last ++ [47]) (n := [])
        (.inr ⟨_, rfl⟩) (by simp) (by rw [List.append_nil]; exact hrel [47])
      rw [List.append_nil, namesOf_concat_slash, namesOf_append_of_closed hdirsClosed, hdirsNames,
        namesOf_name hlast.2 hlast.1] at hclosed
      exact hclosed
    · rw [if_neg hslash, if_neg hslash]
      refine ⟨habs [], ?_⟩
      rw [List.append_nil, List.append_nil, relativeElements_of_split hdirsClosed hlast.2
        (by have := hrel []; rwa [List.append_nil] at this), hdirsNames]

/-! ### The normal form -/

/-- A filename that is neither of the special ones. -/
def IsPlain (n : Bytes) : Prop := IsName n ∧ n ≠ dot ∧ n ≠ dotDot

/-- The filenames of a normal form: plain ones behind dot-dots, and no dot-dot under a root. -/
def IsNormal (rooted : Bool) (names : List Bytes) : Prop :=
  ∃ k plain, names = List.replicate k dotDot ++ plain ∧ (∀ n ∈ plain, IsPlain n) ∧
    (rooted = true → k = 0)

theorem isName_dotDot : IsName dotDot := ⟨by decide +kernel, by decide +kernel⟩

theorem IsNormal.isName {rooted : Bool} {names : List Bytes} (h : IsNormal rooted names) :
    ∀ n ∈ names, IsName n := by
  obtain ⟨k, plain, rfl, hplain, -⟩ := h
  intro n hn
  rcases List.mem_append.mp hn with hn | hn
  · rw [List.eq_of_mem_replicate hn]
    exact isName_dotDot
  · exact (hplain n hn).1

theorem mem_relativeElements {p e : Bytes} (h : e ∈ relativeElements p) : e = [] ∨ IsName e := by
  rw [relativeElements] at h
  split at h
  · cases h
  · rcases List.mem_append.mp h with h | h
    · rw [namesOf, List.mem_filter, List.splitOn_eq_splitOnP] at h
      refine .inr ⟨of_decide_eq_true h.2, fun c hc heq => ?_⟩
      have := not_separator_of_mem_splitOnP h.1 c hc
      simp [heq] at this
    · rw [List.mem_singleton.mp h]
      by_cases hnil : fileName p = []
      · exact .inl hnil
      · exact .inr ⟨hnil, fileName_no_slash p⟩

theorem normalStep_normal {rooted : Bool} {s : List Bytes × Bool} (hs : IsNormal rooted s.1)
    {e : Bytes} (he : e = [] ∨ IsName e) : IsNormal rooted (normalStep rooted s e).1 := by
  rw [normalStep]
  by_cases hdot : e = [] ∨ e = dot
  · rw [if_pos hdot]
    exact hs
  rw [if_neg hdot]
  obtain ⟨k, plain, hnames, hplain, hroot⟩ := hs
  rw [hnames]
  by_cases hup : e = dotDot
  · rw [if_pos hup]
    rcases List.eq_nil_or_concat plain with rfl | ⟨init, last, rfl⟩
    · rw [List.append_nil]
      rcases k with _ | k
      · cases rooted with
        | true => exact ⟨0, [], hnames, by simp, fun _ => rfl⟩
        | false => exact ⟨1, [], rfl, by simp, by simp⟩
      · have hnotRooted : rooted = false := by
          rw [← Bool.not_eq_true]
          intro h
          exact absurd (hroot h) (by omega)
        rw [List.getLast?_replicate, if_neg (by omega)]
        dsimp only
        rw [if_pos rfl]
        refine ⟨k + 2, [], ?_, by simp, by simp [hnotRooted]⟩
        rw [List.append_nil, List.replicate_succ' (n := k + 1)]
    · have hlast : last ≠ dotDot := (hplain last (by simp)).2.2
      rw [List.concat_eq_append, ← List.append_assoc, List.getLast?_concat]
      dsimp only
      rw [if_neg hlast, List.dropLast_concat]
      exact ⟨k, init, rfl, fun n hn => hplain n (by simp [hn]), hroot⟩
  · rw [if_neg hup]
    obtain ⟨hnil, hdot⟩ := not_or.mp hdot
    refine ⟨k, plain ++ [e], List.append_assoc _ _ _, fun n hn => ?_, hroot⟩
    rcases List.mem_append.mp hn with hn | hn
    · exact hplain n hn
    · rw [List.mem_singleton.mp hn]
      exact ⟨he.resolve_left hnil, hdot, hup⟩

theorem foldl_normalStep_normal {rooted : Bool} (l : List Bytes) (hl : ∀ e ∈ l, e = [] ∨ IsName e)
    {s : List Bytes × Bool} (hs : IsNormal rooted s.1) :
    IsNormal rooted (l.foldl (normalStep rooted) s).1 := by
  induction l generalizing s with
  | nil => exact hs
  | cons e l ih =>
      exact ih (fun e he => hl e (List.mem_cons_of_mem _ he))
        (normalStep_normal hs (hl e List.mem_cons_self))

/-- **The normal form** of a path is a normal list of filenames, written out. -/
theorem lexicallyNormal_eq_render {p : Bytes} (hp : p ≠ []) :
    ∃ names slash, IsNormal (isAbsolute p) names ∧
      lexicallyNormal p = render (isAbsolute p) names slash := by
  rw [lexicallyNormal, if_neg hp]
  exact ⟨_, _, foldl_normalStep_normal _ (fun e he => mem_relativeElements he)
    ⟨0, [], rfl, by simp, fun _ => rfl⟩, rfl⟩

/-- Plain names are kept behind whatever came before. -/
theorem foldl_normalStep_plain {rooted : Bool} {l : List Bytes} (hl : ∀ n ∈ l, IsPlain n)
    (s : List Bytes × Bool) :
    l.foldl (normalStep rooted) s = (s.1 ++ l, if l = [] then s.2 else false) := by
  induction l generalizing s with
  | nil => simp
  | cons n l ih =>
      have hn := hl n List.mem_cons_self
      have hstep : normalStep rooted s n = (s.1 ++ [n], false) := by
        rw [normalStep, if_neg (not_or.mpr ⟨hn.1.1, hn.2.1⟩), if_neg hn.2.2]
      rw [List.foldl_cons, hstep, ih fun n hn => hl n (List.mem_cons_of_mem _ hn)]
      simp

/-- A normal list of filenames is its own normal form. -/
theorem foldl_normalStep_self {rooted : Bool} {names : List Bytes} (h : IsNormal rooted names) :
    names.foldl (normalStep rooted) ([], false) = (names, false) := by
  obtain ⟨k, plain, rfl, hplain, hroot⟩ := h
  have hups : (List.replicate k dotDot).foldl (normalStep rooted) ([], false) =
      (List.replicate k dotDot, false) := by
    cases rooted with
    | true =>
        rw [hroot rfl]
        rfl
    | false =>
        induction k with
        | zero => rfl
        | succ k ih =>
            rw [List.replicate_succ', List.foldl_append, ih (by simp)]
            rcases k with _ | k
            · rfl
            · rw [List.foldl_cons, List.foldl_nil, normalStep, if_neg (by decide), if_pos rfl,
                List.getLast?_replicate, if_neg (by omega)]
              rfl
  rw [List.foldl_append, hups, foldl_normalStep_plain hplain]
  simp

/-! ### Joining a normal path with a path below it -/

/-- A relative path that goes down: plain names, and perhaps a separator behind them. -/
structure Descends (q : Bytes) (names : List Bytes) (slash : Bool) : Prop where
  relative : isAbsolute q = false
  nonempty : names ≠ []
  plain : ∀ n ∈ names, IsPlain n
  elements : relativeElements q = names ++ if slash then [[]] else []

theorem render_ne_nil {rooted slash : Bool} {names : List Bytes} (h : ∀ n ∈ names, IsName n) :
    render rooted names slash ≠ [] := by
  rcases List.eq_nil_or_concat names with rfl | ⟨init, last, rfl⟩
  · cases rooted <;> cases slash <;> decide
  · have hlast := (h last (by simp)).1
    rw [render, List.concat_eq_append, List.getLast?_concat]
    simp [hlast]

theorem namesOf_render {rooted slash : Bool} {names : List Bytes} (h : ∀ n ∈ names, IsName n) :
    namesOf (render rooted names slash) = if names = [] ∧ rooted = false then [dot] else names := by
  rw [← filter_relativeElements, (render_spec _ _ h).2]
  rcases List.eq_nil_or_concat names with rfl | ⟨init, last, rfl⟩
  · cases rooted <;> rfl
  · have hfilter : (init.concat last).filter (· ≠ []) = init.concat last :=
      List.filter_eq_self.mpr fun n hn => decide_eq_true (h n hn).1
    rw [List.concat_eq_append] at hfilter ⊢
    rw [List.getLast?_concat]
    dsimp only
    have hslash : (if slash = true ∧ last ≠ dotDot then [[]] else [] : List Bytes).filter (· ≠ []) =
        [] := by
      split <;> rfl
    rw [List.filter_append, hfilter, hslash, List.append_nil, if_neg (by simp)]

/-- The normal form's filenames, and its leading dot, come out of the scan unchanged. -/
theorem foldl_normalStep_namesOf {rooted : Bool} (slash : Bool) {names : List Bytes}
    (h : IsNormal rooted names) :
    ((namesOf (render rooted names slash)).foldl (normalStep rooted) ([], false)).1 = names := by
  rw [namesOf_render h.isName]
  by_cases hnil : names = [] ∧ rooted = false
  · rw [if_pos hnil, hnil.1]
    rfl
  · rw [if_neg hnil, foldl_normalStep_self h]

/-- A normal path joined with nothing, or with a dot, gets a separator behind its last name. -/
theorem lexicallyNormal_append_here {rooted slash : Bool} {names : List Bytes}
    (h : IsNormal rooted names) {q : Bytes} (hq : q = [] ∨ q = dot) :
    lexicallyNormal (append (render rooted names slash) q) = render rooted names true := by
  have hrel : isAbsolute q = false := by rcases hq with rfl | rfl <;> rfl
  have habs : isAbsolute (append (render rooted names slash) q) = rooted :=
    (isAbsolute_append hrel).trans (render_spec _ _ h.isName).1
  have hne : append (render rooted names slash) q ≠ [] := by
    obtain ⟨d, -, -, heq⟩ := append_eq (p := render rooted names slash) hrel
    rw [append, if_neg (by rw [hrel]; exact Bool.false_ne_true)]
    split
    · exact List.append_ne_nil_of_left_ne_nil (render_ne_nil h.isName) _
    · exact List.append_ne_nil_of_left_ne_nil (render_ne_nil h.isName) _
  rw [lexicallyNormal, if_neg hne, habs]
  have hfold : ∃ b, (relativeElements (append (render rooted names slash) q)).foldl
      (normalStep rooted) ([], false) = (names, b) ∧ (names ≠ [] → b = true) := by
    have hnames := foldl_normalStep_namesOf slash h
    rcases hq with rfl | rfl
    · rw [relativeElements_append_nil]
      by_cases hnil : namesOf (render rooted names slash) = []
      · rw [hnil] at hnames
        rw [if_pos hnil]
        exact ⟨false, Prod.ext hnames rfl, fun hne => absurd hnames.symm hne⟩
      · rw [if_neg hnil, List.foldl_append]
        exact ⟨true, Prod.ext hnames rfl, fun _ => rfl⟩
    · rw [relativeElements_append rfl (by decide), List.foldl_append]
      exact ⟨true, Prod.ext hnames rfl, fun _ => rfl⟩
  obtain ⟨b, hfold, hb⟩ := hfold
  rw [hfold]
  by_cases hnil : names = []
  · rw [hnil]
    rfl
  · rw [hb hnil]

/-- A normal path joined with a path that goes down. -/
theorem lexicallyNormal_append_below {rooted slash : Bool} {names : List Bytes}
    (h : IsNormal rooted names) {q : Bytes} {below : List Bytes} {slash' : Bool}
    (hq : Descends q below slash') :
    lexicallyNormal (append (render rooted names slash) q) = render rooted (names ++ below) slash' := by
  have habs : isAbsolute (append (render rooted names slash) q) = rooted :=
    (isAbsolute_append hq.relative).trans (render_spec _ _ h.isName).1
  have hqne : q ≠ [] := by
    rintro rfl
    have := hq.elements
    rw [show relativeElements [] = [] from rfl] at this
    exact hq.nonempty (List.append_eq_nil_iff.mp this.symm).1
  have hne : append (render rooted names slash) q ≠ [] := by
    rw [append, if_neg (by rw [hq.relative]; exact Bool.false_ne_true)]
    split
    · exact List.append_ne_nil_of_left_ne_nil (render_ne_nil h.isName) _
    · exact List.append_ne_nil_of_left_ne_nil (render_ne_nil h.isName) _
  rw [lexicallyNormal, if_neg hne, habs, relativeElements_append hq.relative hqne, hq.elements,
    List.foldl_append, List.foldl_append, foldl_normalStep_plain hq.plain,
    foldl_normalStep_namesOf slash h, if_neg hq.nonempty]
  cases slash' <;> rfl

/-! ### Relative paths -/

theorem mismatch_suffix (as bs : List Bytes) : (mismatch as bs).1 <:+ as := by
  induction as generalizing bs with
  | nil => cases bs <;> exact List.suffix_rfl
  | cons a as ih =>
      cases bs with
      | nil => exact List.suffix_rfl
      | cons b bs =>
          rw [mismatch]
          split
          · exact (ih bs).trans (List.suffix_cons a as)
          · exact List.suffix_rfl

theorem isAbsolute_of_isName {n : Bytes} (h : n = [] ∨ IsName n) : isAbsolute n = false := by
  rcases h with rfl | h
  · rfl
  · obtain ⟨c, t, rfl⟩ := List.exists_cons_of_ne_nil h.1
    simpa [isAbsolute] using h.2 c List.mem_cons_self

/-- A filename is its own only element. -/
theorem relativeElements_name {n : Bytes} (h : IsName n) : relativeElements n = [n] := by
  have hrel : noRelativePart n = false := by
    obtain ⟨c, t, rfl⟩ := List.exists_cons_of_ne_nil h.1
    have hc := h.2 c List.mem_cons_self
    simp [noRelativePart, hc]
  have hsplit := relativeElements_of_split (d := []) (.inl rfl) h.2 hrel
  rwa [namesOf_nil] at hsplit

/-- Joining elements one after the other joins their names. -/
theorem foldl_append_spec {l : List Bytes} (hl : ∀ e ∈ l, e = [] ∨ IsName e) (p : Bytes) :
    isAbsolute (l.foldl append p) = isAbsolute p ∧
      namesOf (l.foldl append p) = namesOf p ++ l.filter (· ≠ []) := by
  induction l generalizing p with
  | nil => simp
  | cons e l ih =>
      have he := hl e List.mem_cons_self
      obtain ⟨habs, hnames⟩ := ih (fun e he => hl e (List.mem_cons_of_mem _ he)) (append p e)
      rw [List.foldl_cons, habs, hnames, isAbsolute_append (isAbsolute_of_isName he)]
      refine ⟨rfl, ?_⟩
      rcases he with rfl | he
      · rw [← filter_relativeElements (append p []), relativeElements_append_nil]
        by_cases hnil : namesOf p = []
        · rw [if_pos hnil, hnil]
          simp
        · rw [if_neg hnil, ← filter_relativeElements p]
          simp
      · have hrel := relativeElements_append (p := p) (isAbsolute_of_isName (.inr he)) he.1
        rw [← filter_relativeElements (append p e), hrel, relativeElements_name he,
          ← filter_relativeElements p]
        simp [he.1]

/-- Joining names, and the empty filename behind them, gives the path with these elements. -/
theorem relativeElements_foldl_append {names : List Bytes} (h : ∀ n ∈ names, IsName n)
    (hne : names ≠ []) (slash : Bool) :
    relativeElements ((names ++ if slash then [[]] else []).foldl append []) =
      names ++ if slash then [[]] else [] := by
  have hnames : ∀ l : List Bytes, (∀ n ∈ l, IsName n) → namesOf (l.foldl append []) = l := by
    intro l hl
    rw [(foldl_append_spec (fun n hn => .inr (hl n hn)) []).2, namesOf_nil, List.nil_append]
    exact List.filter_eq_self.mpr fun n hn => decide_eq_true (hl n hn).1
  cases slash with
  | true =>
      rw [if_pos rfl, List.foldl_append, List.foldl_cons, List.foldl_nil,
        relativeElements_append_nil, hnames names h, if_neg hne]
  | false =>
      rw [if_neg Bool.false_ne_true, List.append_nil]
      rcases List.eq_nil_or_concat names with rfl | ⟨init, last, rfl⟩
      · exact absurd rfl hne
      · rw [List.concat_eq_append] at h ⊢
        have hlast := h last (by simp)
        rw [List.foldl_append, List.foldl_cons, List.foldl_nil,
          relativeElements_append (isAbsolute_of_isName (.inr hlast)) hlast.1,
          hnames init fun n hn => h n (by simp [hn]), relativeElements_name hlast]

/-- The first name of a path is its first element. -/
theorem head?_relativeElements {p n : Bytes} {rest : List Bytes} (h : namesOf p = n :: rest) :
    (relativeElements p).head? = some n := by
  have hrel : noRelativePart p = false := by
    rw [← Bool.not_eq_true, noRelativePart_iff_namesOf, h]
    exact List.cons_ne_nil _ _
  rw [namesOf_eq] at h
  rw [relativeElements_eq hrel]
  rcases hd : namesOf (dirPart p) with _ | ⟨d, ds⟩
  · rw [hd] at h
    split at h
    · cases h
    · rw [(List.cons.inj h).1]
      rfl
  · rw [hd] at h
    rw [← (List.cons.inj h).1]
    rfl

/-- The elements of a path that is in normal form, or empty. -/
theorem relativeElements_normal {p : Bytes}
    (hp : p = [] ∨ ∃ rooted names slash, IsNormal rooted names ∧ p = render rooted names slash) :
    relativeElements p = [dot] ∨
      ∃ (rooted : Bool) (names : List Bytes) (slash : Bool), IsNormal rooted names ∧
        relativeElements p = names ++ if slash then [[]] else [] := by
  rcases hp with rfl | ⟨rooted, names, slash, hnormal, rfl⟩
  · exact .inr ⟨false, [], false, ⟨0, [], rfl, by simp, by simp⟩, rfl⟩
  · rw [(render_spec _ _ hnormal.isName).2]
    rcases List.eq_nil_or_concat names with rfl | ⟨init, last, rfl⟩
    · cases rooted with
      | true => exact .inr ⟨true, [], false, hnormal, rfl⟩
      | false => exact .inl rfl
    · refine .inr ⟨rooted, _, decide (slash = true ∧ last ≠ dotDot), hnormal, ?_⟩
      rw [List.concat_eq_append, List.getLast?_concat]
      simp only [decide_eq_true_eq]

/-- What is left of plain names and a separator behind them. -/
theorem suffix_plain {plain a : List Bytes} {slash : Bool} (hplain : ∀ n ∈ plain, IsPlain n)
    (ha : a <:+ plain ++ if slash then [[]] else []) :
    a = [] ∨ a.head? = some [] ∨
      ∃ below, below ≠ [] ∧ (∀ n ∈ below, IsPlain n) ∧ a = below ++ if slash then [[]] else [] := by
  induction plain with
  | nil =>
      cases slash with
      | true =>
          rcases List.suffix_cons_iff.mp ha with rfl | ha
          · exact .inr (.inl rfl)
          · exact .inl (List.suffix_nil.mp ha)
      | false => exact .inl (List.suffix_nil.mp ha)
  | cons n plain ih =>
      rcases List.suffix_cons_iff.mp ha with rfl | ha
      · exact .inr (.inr ⟨n :: plain, List.cons_ne_nil _ _, hplain, rfl⟩)
      · exact ih (fun n hn => hplain n (List.mem_cons_of_mem _ hn)) ha

/-- What is left of a normal path: nothing, an empty filename, a dot-dot first, or the way down. -/
theorem suffix_normal {rooted slash : Bool} {names a : List Bytes} (h : IsNormal rooted names)
    (ha : a <:+ names ++ if slash then [[]] else []) :
    a = [] ∨ a.head? = some [] ∨ a.head? = some dotDot ∨
      ∃ below, below ≠ [] ∧ (∀ n ∈ below, IsPlain n) ∧ a = below ++ if slash then [[]] else [] := by
  obtain ⟨k, plain, rfl, hplain, -⟩ := h
  rw [List.append_assoc] at ha
  induction k with
  | zero =>
      rcases suffix_plain hplain ha with h | h | h
      · exact .inl h
      · exact .inr (.inl h)
      · exact .inr (.inr (.inr h))
  | succ k ih =>
      rcases List.suffix_cons_iff.mp ha with rfl | ha
      · exact .inr (.inr (.inl rfl))
      · exact ih ha

/-- **What a relative path can be**, for a path in normal form: nothing, a dot, a path that starts with
dot-dot, or one that goes down. -/
theorem lexicallyRelative_cases {p : Bytes} (base : Bytes)
    (hp : p = [] ∨ ∃ rooted names slash, IsNormal rooted names ∧ p = render rooted names slash) :
    lexicallyRelative p base = [] ∨ lexicallyRelative p base = dot ∨
      (elements (lexicallyRelative p base)).head? = some dotDot ∨
      ∃ names slash, Descends (lexicallyRelative p base) names slash := by
  rw [lexicallyRelative]
  by_cases hroot : isAbsolute p ≠ isAbsolute base
  · exact .inl (if_pos hroot)
  rw [if_neg hroot]
  have hmismatch : mismatch (elements p) (elements base) =
      mismatch (relativeElements p) (relativeElements base) := by
    rw [elements, elements, not_not.mp hroot]
    cases isAbsolute base with
    | true => exact if_pos rfl
    | false => rfl
  rw [hmismatch]
  have hsuffix := mismatch_suffix (relativeElements p) (relativeElements base)
  generalize mismatch (relativeElements p) (relativeElements base) = ab at hsuffix
  obtain ⟨a, b⟩ := ab
  dsimp only at hsuffix ⊢
  have hnames : ∀ e ∈ a, e = [] ∨ IsName e := fun e he => mem_relativeElements (hsuffix.mem he)
  by_cases hsame : a = [] ∧ b = []
  · exact .inr (.inl (if_pos hsame))
  rw [if_neg hsame]
  set ups := b.countP (fun e => decide (e ≠ [] ∧ e ≠ dot ∧ e ≠ dotDot))
  set downs := b.countP (fun e => decide (e = dotDot))
  by_cases hless : ups < downs
  · exact .inl (if_pos hless)
  rw [if_neg hless]
  by_cases hhere : ups = downs ∧ (a = [] ∨ a.head? = some [])
  · exact .inr (.inl (if_pos hhere))
  rw [if_neg hhere]
  -- a path that climbs starts with dot-dot
  have hclimb : ∀ rest : List Bytes, (∀ e ∈ rest, e = [] ∨ IsName e) →
      (elements ((dotDot :: rest).foldl append [])).head? = some dotDot := by
    intro rest hrest
    have hall : ∀ e ∈ dotDot :: rest, e = [] ∨ IsName e := by
      intro e he
      rcases List.mem_cons.mp he with rfl | he
      · exact .inr isName_dotDot
      · exact hrest e he
    obtain ⟨habs, hspec⟩ := foldl_append_spec hall []
    have hfirst : namesOf ((dotDot :: rest).foldl append []) = dotDot :: rest.filter (· ≠ []) := by
      rw [hspec]
      rfl
    rw [elements, habs]
    exact head?_relativeElements hfirst
  by_cases hups : ups = downs
  · rw [hups, Nat.sub_self, List.replicate_zero, List.nil_append]
    obtain ⟨hne, hhead⟩ := not_or.mp (not_and.mp hhere hups)
    rcases relativeElements_normal hp with hdot | ⟨rooted, names, slash, hnormal, helements⟩
    · rw [hdot] at hsuffix
      rcases List.suffix_cons_iff.mp hsuffix with rfl | hnil
      · exact .inr (.inl rfl)
      · exact absurd (List.suffix_nil.mp hnil) hne
    · rw [helements] at hsuffix
      rcases suffix_normal hnormal hsuffix with h | h | h | ⟨below, hbelow, hplain, ha⟩
      · exact absurd h hne
      · exact absurd h hhead
      · obtain ⟨e, rest, rfl⟩ := List.exists_cons_of_ne_nil hne
        rw [Option.some.inj h]
        exact .inr (.inr (.inl (hclimb rest fun e he => hnames e (List.mem_cons_of_mem _ he))))
      · refine .inr (.inr (.inr ⟨below, slash, (foldl_append_spec hnames []).1, hbelow, hplain, ?_⟩))
        rw [ha]
        exact relativeElements_foldl_append (fun n hn => (hplain n hn).1) hbelow slash
  · rw [show List.replicate (ups - downs) dotDot ++ a =
      dotDot :: (List.replicate (ups - downs - 1) dotDot ++ a) by
        rw [← List.cons_append, ← List.replicate_succ]
        congr 2
        omega]
    refine .inr (.inr (.inl (hclimb _ fun e he => ?_)))
    rcases List.mem_append.mp he with he | he
    · exact .inr (List.eq_of_mem_replicate he ▸ isName_dotDot)
    · exact hnames e he

end Sysal.FsPath
