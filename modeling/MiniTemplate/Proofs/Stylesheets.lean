import MiniTemplate.Stylesheet
import Mathlib.Data.List.Dedup
import Mathlib.Data.List.Nodup
import Mathlib.Data.List.Induction

/-!
# Stylesheets of components

The stylesheets of a script file are written under the paths of its components, the last component
of a path being the one whose imports are kept. Components of a script have paths of their own,
but for a nameless one, which shares the path of the main component. So nothing is lost where every
component has a name, and only the stylesheet of a page's main component imports that of pages.
-/

namespace MiniTemplate

/-! ### Paths -/

/-- A path that ends in the extension of script files. -/
def IsScript (path : String) : Prop := ".js".toList <:+ path.toList

instance (path : String) : Decidable (IsScript path) :=
  inferInstanceAs (Decidable (".js".toList <:+ path.toList))

/-- A script is a path that ends like one. -/
theorem isScript_iff {path : String} : IsScript path ↔ ∃ stem, path = stem ++ ".js" := by
  constructor
  · rintro ⟨stem, hstem⟩
    refine ⟨String.ofList stem, ?_⟩
    rw [← String.toList_inj, String.toList_append, String.toList_ofList, hstem]
  · rintro ⟨stem, rfl⟩
    exact ⟨stem.toList, by rw [String.toList_append]⟩

/-- The path of a stylesheet beside a script. -/
theorem sheetPath_append (stem component : String) :
    sheetPath (stem ++ ".js") component = stem ++ sheetEnding component := by
  have hsuffix : scriptExtension.isSuffixOf (stem ++ ".js").toList = true := by
    rw [List.isSuffixOf_iff_suffix]
    exact ⟨stem.toList, by rw [String.toList_append]; rfl⟩
  have hstem : (stem ++ ".js").toList.dropLast.dropLast.dropLast = stem.toList := by
    have hjs : ".js".toList = ['.', 'j', 's'] := rfl
    rw [String.toList_append, hjs]
    simp
  rw [sheetPath, if_pos hsuffix, hstem, String.ofList_toList]

/-- Any other path is taken for the path of the stylesheet as it is. -/
theorem sheetPath_of_not_isScript {path : String} (h : ¬ IsScript path) (component : String) :
    sheetPath path component = path := by
  rw [sheetPath, if_neg]
  rw [List.isSuffixOf_iff_suffix]
  exact h

/-- The ending of a stylesheet's path names the component, but not the main one. -/
theorem sheetEnding_eq (component : String) :
    sheetEnding component = (if component = mainComponent then "" else component) ++ ".wxss" := by
  unfold sheetEnding
  by_cases h : component = mainComponent
  · rw [if_pos (beq_iff_eq.mpr h), if_pos h]
    rfl
  · rw [if_neg (fun he => h (beq_iff_eq.mp he)), if_neg h]

/-- Two components share an ending only if one is the main component and the other has no name. -/
theorem sheetEnding_eq_iff {c c' : String} :
    sheetEnding c = sheetEnding c' ↔
      c = c' ∨ (c = mainComponent ∧ c' = "") ∨ (c = "" ∧ c' = mainComponent) := by
  have hnamed : mainComponent ≠ "" := by decide
  rw [sheetEnding_eq, sheetEnding_eq, String.append_left_inj]
  by_cases h : c = mainComponent
  · by_cases h' : c' = mainComponent
    · simp [h, h']
    · simp [h, h', hnamed, Ne.symm h', eq_comm]
  · by_cases h' : c' = mainComponent
    · simp [h, h']
    · simp [h, h']

/-- When two components share a path. -/
theorem sheetPath_eq_iff {script c c' : String} :
    sheetPath script c = sheetPath script c' ↔ c = c' ∨ ¬ IsScript script ∨
      (c = mainComponent ∧ c' = "") ∨ (c = "" ∧ c' = mainComponent) := by
  by_cases h : IsScript script
  · obtain ⟨stem, rfl⟩ := isScript_iff.mp h
    rw [sheetPath_append, sheetPath_append, String.append_right_inj, sheetEnding_eq_iff]
    simp [h]
  · simp [sheetPath_of_not_isScript h, h]

/-! ### The last stylesheet of a path is kept -/

namespace Sheets

/-- The paths under which there are stylesheets. -/
def paths (sheets : Sheets) : List String := sheets.map Prod.fst

/-- An insertion adds a path behind the others, if it is new. -/
theorem paths_insert (path text : String) (sheets : Sheets) :
    (sheets.insert path text).paths =
      if path ∈ sheets.paths then sheets.paths else sheets.paths ++ [path] := by
  unfold paths
  induction sheets with
  | nil => rfl
  | cons sheet rest ih =>
    obtain ⟨path', text'⟩ := sheet
    rw [Sheets.insert]
    by_cases hhere : path' = path
    · simp [hhere]
    · rw [if_neg (by simpa using hhere), List.map_cons, ih, List.map_cons]
      by_cases hm : path ∈ rest.map Prod.fst
      · rw [if_pos hm, if_pos (List.mem_cons_of_mem _ hm)]
      · rw [if_neg hm, if_neg (by simp [hm, Ne.symm hhere]), List.cons_append]

theorem lookup_cons (path text path' : String) (rest : Sheets) :
    List.lookup path' ((path, text) :: rest) =
      if path' = path then some text else rest.lookup path' := by
  rw [List.lookup_cons]
  by_cases h : path' = path
  · rw [if_pos h, beq_iff_eq.mpr h]
  · rw [if_neg h, beq_eq_false_iff_ne.mpr h]

/-- An insertion is found under its path, and nothing else changes. -/
theorem lookup_insert (path text path' : String) (sheets : Sheets) :
    (sheets.insert path text).lookup path' =
      if path' = path then some text else sheets.lookup path' := by
  induction sheets with
  | nil => exact lookup_cons path text path' []
  | cons sheet rest ih =>
    obtain ⟨here, text'⟩ := sheet
    rw [Sheets.insert]
    by_cases hhere : here = path
    · rw [if_pos (beq_iff_eq.mpr hhere), hhere, lookup_cons, lookup_cons]
      split <;> rfl
    · rw [if_neg (by simpa using hhere), lookup_cons, lookup_cons, ih]
      by_cases h : path' = path
      · rw [h, if_neg (Ne.symm hhere), if_pos rfl, if_pos rfl]
      · rw [if_neg h, if_neg h]

/-- With one stylesheet under each path, looking up a path finds it. -/
theorem mem_iff_lookup {sheets : Sheets} (h : sheets.paths.Nodup) {path text : String} :
    (path, text) ∈ sheets ↔ sheets.lookup path = some text := by
  rw [List.lookup_eq_some_iff]
  constructor
  · intro hm
    obtain ⟨front, rest, rfl⟩ := List.append_of_mem hm
    refine ⟨front, rest, rfl, fun sheet hsheet => ?_⟩
    rw [paths, List.map_append, List.nodup_append] at h
    simpa using Ne.symm (h.2.2 sheet.1 (List.mem_map_of_mem hsheet) path (by simp))
  · rintro ⟨front, rest, rfl, -⟩
    simp

end Sheets

variable (script : String) (components : List String) (isPage : Bool) (root : String)

/-- The last component is inserted last. -/
theorem sheets_concat (component : String) :
    sheets script (components ++ [component]) isPage root =
      (sheets script components isPage root).insert (sheetPath script component)
        (sheetText (pathToRoot script root) isPage component) := by
  simp [sheets]

/-- No path has two stylesheets. -/
theorem nodup_paths_sheets : (sheets script components isPage root).paths.Nodup := by
  induction components using List.reverseRecOn with
  | nil => exact List.nodup_nil
  | append_singleton components component ih =>
    rw [sheets_concat, Sheets.paths_insert]
    split
    · exact ih
    · rename_i hnew
      exact List.nodup_append.mpr ⟨ih, List.nodup_singleton _, fun path hm path' hm' he =>
        hnew (List.mem_singleton.mp hm' ▸ he ▸ hm)⟩

/-- Under each path is found the stylesheet of the last component that has the path. -/
theorem lookup_sheets (path : String) :
    (sheets script components isPage root).lookup path =
      (components.filter fun component => sheetPath script component = path).getLast?.map
        (sheetText (pathToRoot script root) isPage) := by
  induction components using List.reverseRecOn with
  | nil => rfl
  | append_singleton components component ih =>
    rw [sheets_concat, Sheets.lookup_insert, ih, List.filter_append]
    by_cases h : sheetPath script component = path
    · simp [h]
    · simp [h, Ne.symm h]

/-- Stylesheets stand at the paths of the components. -/
theorem mem_paths_sheets (path : String) :
    path ∈ (sheets script components isPage root).paths ↔
      path ∈ components.map (sheetPath script) := by
  induction components using List.reverseRecOn with
  | nil => exact Iff.rfl
  | append_singleton components component ih =>
    rw [sheets_concat, Sheets.paths_insert, List.map_append, List.mem_append, ← ih,
      List.map_singleton, List.mem_singleton]
    split
    · rename_i hold
      exact ⟨.inl, fun h => h.elim id (· ▸ hold)⟩
    · rw [List.mem_append, List.mem_singleton]

/-- Where components have paths of their own, there is a stylesheet for each of them. -/
theorem mem_sheets_iff
    (hown : ∀ c ∈ components, ∀ c' ∈ components, sheetPath script c = sheetPath script c' → c = c')
    (sheet : String × String) :
    sheet ∈ sheets script components isPage root ↔
      ∃ component ∈ components, sheet =
        (sheetPath script component, sheetText (pathToRoot script root) isPage component) := by
  obtain ⟨path, text⟩ := sheet
  rw [Sheets.mem_iff_lookup (nodup_paths_sheets script components isPage root), lookup_sheets,
    Option.map_eq_some_iff]
  constructor
  · rintro ⟨component, hlast, rfl⟩
    obtain ⟨hm, hpath⟩ := List.mem_filter.mp (List.mem_of_getLast? hlast)
    exact ⟨component, hm, by rw [of_decide_eq_true hpath]⟩
  · rintro ⟨component, hm, he⟩
    obtain ⟨rfl, rfl⟩ := Prod.mk.inj he
    have hown' : ∀ c ∈ components.filter fun c => sheetPath script c = sheetPath script component,
        c = component := by
      intro c hc
      obtain ⟨hmc, hpath⟩ := List.mem_filter.mp hc
      exact hown c hmc component hm (of_decide_eq_true hpath)
    have hlisted : component ∈
        components.filter fun c => sheetPath script c = sheetPath script component :=
      List.mem_filter.mpr ⟨hm, decide_eq_true rfl⟩
    have hlast := List.getLast?_eq_some_getLast (List.ne_nil_of_mem hlisted)
    exact ⟨_, hlast, by rw [hown' _ (List.getLast_mem _)]⟩

/-! ### Imports -/

/-- A stylesheet has an import of a path somewhere in its text. -/
def Imports (text path : String) : Prop := (importLine path).toList <:+: text.toList

/-- Only the main component of a page imports the stylesheet shared by pages. -/
theorem imports_pages_iff (toRoot component : String) :
    Imports (sheetText toRoot isPage component) (toRoot ++ "/pageCommon.wxss") ↔
      isPage = true ∧ component = mainComponent := by
  unfold Imports sheetText
  dsimp only
  split
  · rename_i h
    rw [Bool.and_eq_true, beq_iff_eq] at h
    refine ⟨fun _ => h.symm, fun _ => ?_⟩
    rw [String.toList_append, String.toList_append, List.append_assoc]
    exact (List.prefix_append _ _).isInfix
  · rename_i h
    rw [Bool.and_eq_true, beq_iff_eq, and_comm] at h
    refine iff_of_false (fun himports => ?_) h
    -- both imports are equally long, so the one would have to be the other
    have hlength : (importLine (toRoot ++ "/pageCommon.wxss")).toList.length =
        (importLine (toRoot ++ "/compCommon.wxss")).toList.length := by
      simp [importLine]
    have hsame := String.toList_inj.mp (himports.eq_of_length hlength)
    simp [importLine] at hsame

/-! ### Nothing is lost or mixed up -/

/-- Components with names have paths of their own in a script file. -/
theorem sheetPath_injective {script : String} (hscript : IsScript script) {c c' : String}
    (hc : c ≠ "") (hc' : c' ≠ "") (h : sheetPath script c = sheetPath script c') : c = c' := by
  rcases sheetPath_eq_iff.mp h with h | h | h | h
  · exact h
  · exact absurd hscript h
  · exact absurd h.2 hc'
  · exact absurd h.1 hc

/-- Two components share a path only outside of script files, or if one of them is the main one and
the other has no name. There is one stylesheet under every path of a component, and none elsewhere;
it holds the imports of the last component of its path. So named components of a script file have a
stylesheet each, and that of a page's main component is the only one to import the stylesheet shared
by pages. -/
theorem sheets_keep_components (script : String) :
    (∀ c c' : String, sheetPath script c = sheetPath script c' ↔
      c = c' ∨ ¬ IsScript script ∨ (c = mainComponent ∧ c' = "") ∨ (c = "" ∧ c' = mainComponent)) ∧
    ∀ (components : List String) (isPage : Bool) (root : String),
      (sheets script components isPage root).paths.Nodup ∧
      (∀ path, path ∈ (sheets script components isPage root).paths ↔
        path ∈ components.map (sheetPath script)) ∧
      (∀ path, (sheets script components isPage root).lookup path =
        (components.filter fun component => sheetPath script component = path).getLast?.map
          (sheetText (pathToRoot script root) isPage)) ∧
      (IsScript script → "" ∉ components →
        (sheets script components isPage root).Perm (components.dedup.map fun component =>
          (sheetPath script component, sheetText (pathToRoot script root) isPage component)) ∧
        (∀ sheet ∈ sheets script components isPage root,
          Imports sheet.2 (pathToRoot script root ++ "/pageCommon.wxss") ↔
            isPage = true ∧ sheet.1 = sheetPath script mainComponent) ∧
        ((∃ sheet ∈ sheets script components isPage root,
          Imports sheet.2 (pathToRoot script root ++ "/pageCommon.wxss")) ↔
            isPage = true ∧ mainComponent ∈ components)) := by
  refine ⟨fun c c' => sheetPath_eq_iff, fun components isPage root =>
    ⟨nodup_paths_sheets script components isPage root,
      mem_paths_sheets script components isPage root,
      lookup_sheets script components isPage root, fun hscript hnamed => ?_⟩⟩
  have hname : ∀ c ∈ components, c ≠ "" := fun c hm he => hnamed (he ▸ hm)
  have hown : ∀ c ∈ components, ∀ c' ∈ components,
      sheetPath script c = sheetPath script c' → c = c' :=
    fun c hm c' hm' => sheetPath_injective hscript (hname c hm) (hname c' hm')
  have hmem := mem_sheets_iff script components isPage root hown
  refine ⟨?_, ?_, ?_⟩
  · have hsheets := (nodup_paths_sheets script components isPage root).of_map
    have hlisted : (components.dedup.map fun component => (sheetPath script component,
        sheetText (pathToRoot script root) isPage component)).Nodup := by
      refine List.Nodup.map_on (fun c hm c' hm' he => ?_) components.nodup_dedup
      exact hown c (List.mem_dedup.mp hm) c' (List.mem_dedup.mp hm') (Prod.mk.inj he).1
    rw [List.perm_ext_iff_of_nodup hsheets hlisted]
    intro sheet
    rw [hmem, List.mem_map]
    simp only [List.mem_dedup, eq_comm]
  · intro sheet hsheet
    obtain ⟨component, hm, rfl⟩ := (hmem sheet).mp hsheet
    rw [imports_pages_iff]
    refine and_congr_right fun _ => ⟨congrArg (sheetPath script), ?_⟩
    exact sheetPath_injective hscript (hname component hm) (by decide)
  · constructor
    · rintro ⟨sheet, hsheet, himports⟩
      obtain ⟨component, hm, rfl⟩ := (hmem sheet).mp hsheet
      obtain ⟨hpage, rfl⟩ := (imports_pages_iff isPage _ component).mp himports
      exact ⟨hpage, hm⟩
    · rintro ⟨hpage, hm⟩
      have himports := (imports_pages_iff isPage (pathToRoot script root) _).mpr ⟨hpage, rfl⟩
      exact ⟨_, (hmem _).mpr ⟨mainComponent, hm, rfl⟩, himports⟩

/-- A page with a component that is listed twice, in a directory named like a script. -/
theorem sheets_keep_components_page :
    IsScript "dist/a.js/b.js" ∧ "" ∉ ["Row", "default", "Row"] ∧
      (sheets "dist/a.js/b.js" ["Row", "default", "Row"] true "dist").Perm
        [("dist/a.js/b.wxss", "@import '../pageCommon.wxss';\n@import '../compCommon.wxss';"),
          ("dist/a.js/bRow.wxss", "@import '../compCommon.wxss';")] := by
  have hscript : IsScript "dist/a.js/b.js" := by decide
  have hnamed : "" ∉ ["Row", "default", "Row"] := by decide
  have hperm := ((sheets_keep_components "dist/a.js/b.js").2 ["Row", "default", "Row"] true
    "dist").2.2.2 hscript hnamed
  refine ⟨hscript, hnamed, hperm.1.trans (List.Perm.of_eq ?_)⟩
  decide

end MiniTemplate
