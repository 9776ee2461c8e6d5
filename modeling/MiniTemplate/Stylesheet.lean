import MiniTemplate.FilePath

/-!
# Stylesheets

Every component that a script file puts out has a stylesheet beside the file. It
imports the stylesheet shared by components; that of a page's main component also
imports the stylesheet shared by pages.
-/

namespace MiniTemplate

/-- The name of a file's main component. -/
def mainComponent : String := "default"

/-- The extension of script files. -/
def scriptExtension : List Char := ['.', 'j', 's']

/-- What the extension of a script file is replaced by. -/
def sheetEnding (component : String) : String :=
  if component == mainComponent then ".wxss" else component ++ ".wxss"

/-- Path of a component's stylesheet. A path that is not one of a script file stays as it is. -/
def sheetPath (script component : String) : String :=
  if scriptExtension.isSuffixOf script.toList then
    String.ofList (script.toList.dropLast.dropLast.dropLast) ++ sheetEnding component
  else script

/-- An import of a stylesheet. -/
def importLine (path : String) : String := "@import '" ++ path ++ "';"

/-- The imports of a component's stylesheet. -/
def sheetText (toRoot : String) (isPage : Bool) (component : String) : String :=
  let shared := importLine (toRoot ++ "/compCommon.wxss")
  if component == mainComponent && isPage then
    importLine (toRoot ++ "/pageCommon.wxss") ++ "\n" ++ shared
  else shared

/-- Stylesheets by path. -/
abbrev Sheets := List (String × String)

/-- Stylesheets with one put at a path, in place of an earlier one. -/
def Sheets.insert (path text : String) : Sheets → Sheets
  | [] => [(path, text)]
  | (path', text') :: rest =>
    if path' == path then (path, text) :: rest else (path', text') :: Sheets.insert path text rest

/-- The stylesheets of components, the last of those with the same path being kept. -/
def sheets (script : String) (components : List String) (isPage : Bool) (root : String) : Sheets :=
  components.foldl (fun done component =>
    Sheets.insert (sheetPath script component) (sheetText (pathToRoot script root) isPage component) done) []

end MiniTemplate
