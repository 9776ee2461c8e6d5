import MiniTemplate.FilePath
import MiniTemplate.Proofs.Slices
import Mathlib.Data.List.DropRight
import Mathlib.Data.List.Infix

/-!
# Relative paths to a root directory

The path from the directory of a file up to a root directory goes up once for every name below the
root. Followed from the directory of the file it ends at the root, so that a name put behind it is
that of a file directly below the root, provided that the directory does not itself go up again
below the root. Where the root does not lead to the directory, the path goes up as far as there are
names, which leaves the slash or the dot that the directory starts with.
-/

namespace MiniTemplate

/-! ### What paths are made of -/

theorem pathSegments_eq_splitOn (path : List Char) : pathSegments path = path.splitOn '/' :=
  eq_splitOn rfl (fun _ _ => rfl) path

/-- A slash ends the segments in front of it. -/
theorem pathSegments_slash (front rest : List Char) :
    pathSegments (front ++ '/' :: rest) = pathSegments front ++ pathSegments rest := by
  simp only [pathSegments_eq_splitOn, List.splitOn_append_cons_self]

/-- A part that can stand behind others: it goes up or down. -/
def PathPart.IsStep (part : PathPart) : Prop := part = .up ∨ part.isName = true

/-- What a segment stands for is a step up or down, never the root. -/
theorem pathPart?_isStep {segment : List Char} {part : PathPart}
    (h : pathPart? segment = some part) : part.IsStep := by
  unfold pathPart? at h
  split at h
  · cases h
  · split at h
    · exact .inl (Option.some.inj h).symm
    · rw [← Option.some.inj h]
      exact .inr rfl

/-- So it is for segments one behind the other. -/
theorem filterMap_isStep (segments : List (List Char)) :
    ∀ part ∈ segments.filterMap pathPart?, part.IsStep := by
  intro part hm
  obtain ⟨segment, -, hpart⟩ := List.mem_filterMap.mp hm
  exact pathPart?_isStep hpart

/-- Only the first part of a path can be a slash or a dot. -/
theorem tail_pathParts (path : String) : ∀ part ∈ (pathParts path).tail, part.IsStep := by
  unfold pathParts
  split
  · split
    · simp
    · exact filterMap_isStep _
  · exact filterMap_isStep _
  · exact fun part hm => filterMap_isStep _ part (List.mem_of_mem_tail hm)

/-- Only the first part of a directory can be the root. -/
theorem tail_directoryParts (file : String) :
    ∀ part ∈ (directoryParts file).tail, part.IsStep := by
  unfold directoryParts
  dsimp only
  split
  · simp
  · rw [List.tail_dropLast]
    exact fun part hm => tail_pathParts file part (List.mem_of_mem_dropLast hm)

/-- Neither a slash nor a dot stands behind other parts of a directory. -/
theorem directoryParts_behind {file : String} {base rest : List PathPart}
    (h : directoryParts file = base ++ rest) :
    (∀ part ∈ rest.tail, part.IsStep) ∧ (base ≠ [] → ∀ part ∈ rest, part.IsStep) := by
  have htail := tail_directoryParts file
  rw [h] at htail
  cases base with
  | nil => exact ⟨htail, fun hne => absurd rfl hne⟩
  | cons first base =>
    have hrest : ∀ part ∈ rest, part.IsStep :=
      fun part hm => htail part (List.mem_append_right base hm)
    exact ⟨fun part hm => hrest part (List.mem_of_mem_tail hm), fun _ => hrest⟩

/-- A path that is not empty has a part. -/
theorem pathParts_ne_nil {path : String} (h : path ≠ "") : pathParts path ≠ [] := by
  unfold pathParts
  split
  · rw [if_neg h]
    exact List.cons_ne_nil _ _
  · exact List.cons_ne_nil _ _
  · rename_i hslash hdot
    obtain ⟨segment, rest, hpath⟩ := List.exists_cons_of_ne_nil
      (pathSegments_eq_splitOn path.toList ▸ List.splitOn_ne_nil '/' path.toList)
    -- a first segment that is neither empty nor a dot is a part
    have hpart : pathPart? segment ≠ none := by
      have hempty : segment ≠ [] := fun he => hslash rest (he ▸ hpath)
      have hsingle : segment ≠ ['.'] := fun he => hdot rest (he ▸ hpath)
      unfold pathPart?
      simp only [hempty, hsingle, decide_false, Bool.or_false, Bool.false_eq_true, if_false]
      split <;> simp
    obtain ⟨part, hsome⟩ := Option.ne_none_iff_exists'.mp hpart
    rw [hpath, List.filterMap_cons_some hsome]
    exact List.cons_ne_nil _ _

/-! ### Going up -/

/-- The slash or the dot that parts of a path start with, if they do. -/
def pathAnchor : List PathPart → List PathPart
  | .root :: _ => [.root]
  | .current :: _ => [.current]
  | _ => []

/-- Parts that do not go up are a slash or a dot, if they start with one, and names. -/
theorem pathAnchor_append_names {parts : List PathPart}
    (htail : ∀ part ∈ parts.tail, part.IsStep) (hup : .up ∉ parts) :
    pathAnchor parts ++ parts.filter PathPart.isName = parts := by
  cases parts with
  | nil => rfl
  | cons first rest =>
    rw [List.mem_cons, not_or] at hup
    have hnames : rest.filter PathPart.isName = rest := by
      refine List.filter_eq_self.mpr fun part hm => ?_
      rcases htail part hm with rfl | hname
      · exact absurd hm hup.2
      · exact hname
    cases first with
    | up => exact absurd rfl hup.1
    | root => rw [List.filter_cons_of_neg (by decide), hnames, pathAnchor, List.singleton_append]
    | current => rw [List.filter_cons_of_neg (by decide), hnames, pathAnchor, List.singleton_append]
    | name text =>
      rw [List.filter_cons_of_pos rfl, hnames]
      rfl

/-- Parts that are steps have no anchor. -/
theorem pathAnchor_eq_nil {parts : List PathPart} (h : ∀ part ∈ parts, part.IsStep) :
    pathAnchor parts = [] := by
  cases parts with
  | nil => rfl
  | cons first rest =>
    have hfirst := h first List.mem_cons_self
    cases first with
    | up => rfl
    | name text => rfl
    | _ => simp [PathPart.IsStep, PathPart.isName] at hfirst

/-- Where a part of a path leads from a directory. -/
def PathPart.follow (directory : List PathPart) : PathPart → List PathPart
  | .root => [.root]
  | .current => directory
  | .up =>
    match directory.getLast? with
    | some (.name _) => directory.dropLast
    | some .root => directory
    | _ => directory ++ [.up]
  | .name text => directory ++ [.name text]

/-- What a path names when it is followed from a directory. -/
def resolvePath (directory : List PathPart) (path : String) : List PathPart :=
  (pathParts path).foldl PathPart.follow directory

/-- Number of segments of a path that go up. -/
def upCount (path : String) : Nat := (pathSegments path.toList).count ['.', '.']

/-- A step up undoes a step down. -/
theorem follow_up (directory : List PathPart) (text : String) :
    PathPart.follow (directory ++ [.name text]) .up = directory := by
  simp [PathPart.follow]

/-- Going up as often as there are names leaves what is in front of them. -/
theorem foldl_follow_up (directory : List PathPart) {names : List PathPart}
    (h : ∀ part ∈ names, part.isName = true) :
    (List.replicate names.length .up).foldl PathPart.follow (directory ++ names) = directory := by
  induction names using List.reverseRecOn with
  | nil => simp
  | append_singleton names last ih =>
    rw [List.forall_mem_append] at h
    cases last with
    | name text =>
      rw [List.length_append, List.length_singleton, List.replicate_succ, List.foldl_cons,
        ← List.append_assoc, follow_up]
      exact ih h.1
    | _ => simp [PathPart.isName] at h

/-- A path that goes up has a segment for each time, or is a single dot. -/
theorem pathSegments_goUp (depth : Nat) :
    pathSegments (goUp depth).toList =
      if depth = 0 then [['.']] else List.replicate depth ['.', '.'] := by
  unfold goUp
  cases depth with
  | zero => rfl
  | succ depth =>
    rw [if_neg (Nat.succ_ne_zero depth), if_neg (Nat.succ_ne_zero depth)]
    induction depth with
    | zero => rfl
    | succ depth ih =>
      have hstep : (joinWith "/" (List.replicate (depth + 1 + 1) "..")).toList =
          ['.', '.'] ++ '/' :: (joinWith "/" (List.replicate (depth + 1) "..")).toList := by
        change (".." ++ "/" ++ joinWith "/" (List.replicate (depth + 1) "..")).toList = _
        rw [String.toList_append]
        rfl
      rw [hstep, pathSegments_slash, ih]
      rfl

/-- A path made of steps up has as many of them as were asked for. -/
theorem upCount_goUp (depth : Nat) : upCount (goUp depth) = depth := by
  rw [upCount, pathSegments_goUp]
  split
  · rename_i h
    rw [h]
    rfl
  · rw [List.count_replicate_self]

/-- The parts below a leading path are the rest, or all of them if the path does not lead. -/
theorem partsBelow_eq {leading parts base rest : List PathPart}
    (hbase : base = if leading <+: parts then leading else []) (hparts : parts = base ++ rest) :
    partsBelow leading parts = rest := by
  unfold partsBelow
  by_cases h : leading <+: parts
  · rw [if_pos h] at hbase
    rw [if_pos (List.isPrefixOf_iff_prefix.mpr h), hparts, hbase, List.drop_left]
  · rw [if_neg h] at hbase
    rw [if_neg (fun hp => h (List.isPrefixOf_iff_prefix.mp hp)), hparts, hbase, List.nil_append]

/-- The parts of a path that goes up, with more segments behind it. -/
theorem pathParts_of_goUp {path : String} {depth : Nat} {more : List (List Char)}
    (h : pathSegments path.toList = pathSegments (goUp depth).toList ++ more) :
    pathParts path =
      (if depth = 0 then [.current] else List.replicate depth .up) ++ more.filterMap pathPart? := by
  have hup : pathPart? ['.', '.'] = some .up := rfl
  rw [pathSegments_goUp] at h
  unfold pathParts
  rw [h]
  cases depth with
  | zero => rfl
  | succ depth =>
    rw [if_neg (Nat.succ_ne_zero depth), if_neg (Nat.succ_ne_zero depth),
      ← List.filterMap_replicate_of_some hup, ← List.filterMap_append]
    rfl

/-- A path that goes up once for every name at the end of a directory leads to what is in front of
the names, and on from there. -/
theorem resolvePath_of_goUp {path : String} (directory : List PathPart) {names : List PathPart}
    (hnames : ∀ part ∈ names, part.isName = true) {more : List (List Char)}
    (h : pathSegments path.toList = pathSegments (goUp names.length).toList ++ more) :
    resolvePath (directory ++ names) path =
      (more.filterMap pathPart?).foldl PathPart.follow directory := by
  rw [resolvePath, pathParts_of_goUp h, List.foldl_append]
  congr 1
  split
  · rename_i hnone
    rw [List.length_eq_zero_iff.mp hnone, List.append_nil]
    rfl
  · exact foldl_follow_up directory hnames

/-- The path of a common stylesheet: the steps up, and its name. -/
theorem pathSegments_goUp_sheet (depth : Nat) :
    pathSegments (goUp depth ++ "/compCommon.wxss").toList =
      pathSegments (goUp depth).toList ++ ["compCommon.wxss".toList] := by
  have hsheet : "/compCommon.wxss".toList = '/' :: "compCommon.wxss".toList := rfl
  rw [String.toList_append, hsheet, pathSegments_slash]
  rfl

/-- The path from the directory of a file up to a root leads to the root, or, where the root does
not lead to the directory, to the slash or the dot that the directory starts with. This takes as
many parts from the end of the directory as the path has segments that go up. The shared stylesheet
that is named behind the path lies directly below the root. -/
theorem pathToRoot_reaches_root (file root : String) (base rest : List PathPart)
    (hbase : base = if pathParts root <+: directoryParts file then pathParts root else [])
    (hrest : directoryParts file = base ++ rest) (hup : .up ∉ rest) :
    upCount (pathToRoot file root) ≤ (directoryParts file).length ∧
      (directoryParts file).rdrop (upCount (pathToRoot file root)) = base ++ pathAnchor rest ∧
      resolvePath (directoryParts file) (pathToRoot file root) = base ++ pathAnchor rest ∧
      (root ≠ "" → pathParts root <+: directoryParts file →
        resolvePath (directoryParts file) (pathToRoot file root ++ "/compCommon.wxss") =
          pathParts root ++ [.name "compCommon.wxss"]) := by
  obtain ⟨htail, hbehind⟩ := directoryParts_behind hrest
  have hsplit := pathAnchor_append_names htail hup
  have hnames : ∀ part ∈ rest.filter PathPart.isName, part.isName = true :=
    fun part hm => (List.mem_filter.mp hm).2
  have hdirectory :
      directoryParts file = base ++ pathAnchor rest ++ rest.filter PathPart.isName := by
    rw [List.append_assoc, hsplit, hrest]
  have hpath : pathToRoot file root = goUp (rest.filter PathPart.isName).length := by
    rw [pathToRoot, partsBelow_eq hbase hrest]
  rw [hpath, upCount_goUp, hdirectory]
  refine ⟨?_, ?_, ?_, ?_⟩
  · rw [List.length_append]
    omega
  · exact List.rdrop_append_length
  · exact resolvePath_of_goUp (base ++ pathAnchor rest) hnames (List.append_nil _).symm
  · intro hroot hlead
    rw [← hdirectory] at hlead
    rw [if_pos hlead] at hbase
    have hplain : pathAnchor rest = [] :=
      pathAnchor_eq_nil (hbehind (hbase ▸ pathParts_ne_nil hroot))
    rw [resolvePath_of_goUp (base ++ pathAnchor rest) hnames (pathSegments_goUp_sheet _), hplain,
      hbase, List.append_nil]
    rfl

/-- The path of a file with empty segments and dots in it. -/
def scatteredFile : String := "./dist//pages/./index/a.js"

/-- The root is spelled otherwise than it stands in the path of the file. -/
theorem pathToRoot_reaches_root_respelled :
    directoryParts scatteredFile = [.current, .name "dist"] ++ [.name "pages", .name "index"] ∧
      pathToRoot scatteredFile "././dist/" = "../.." ∧
      (directoryParts scatteredFile).rdrop 2 = [.current, .name "dist"] ∧
      resolvePath (directoryParts scatteredFile) "../.." = [.current, .name "dist"] ∧
      resolvePath (directoryParts scatteredFile) "../../compCommon.wxss" =
        [.current, .name "dist", .name "compCommon.wxss"] := by
  have hdirectory : directoryParts scatteredFile =
      [.current, .name "dist"] ++ [.name "pages", .name "index"] := by decide
  have hpath : pathToRoot scatteredFile "././dist/" = "../.." := by decide
  have hcount : upCount "../.." = 2 := by decide
  have hroot : pathParts "././dist/" = [.current, .name "dist"] := by decide
  have hlead : pathParts "././dist/" <+: directoryParts scatteredFile := by
    rw [hroot, hdirectory]
    exact List.prefix_append _ _
  obtain ⟨-, hdrop, hreach, hsheet⟩ := pathToRoot_reaches_root scatteredFile "././dist/"
    [.current, .name "dist"] [.name "pages", .name "index"] (by rw [if_pos hlead, hroot])
    hdirectory (by decide)
  have hbelow := hsheet (by decide) hlead
  rw [hpath, hcount] at hdrop
  rw [hpath] at hreach hbelow
  rw [hroot] at hbelow
  exact ⟨hdirectory, hpath, hdrop, hreach, hbelow⟩

end MiniTemplate
