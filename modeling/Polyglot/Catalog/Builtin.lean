import Polyglot.Catalog.Build

/-!
# The built-in catalog

The languages that are known when no other catalog is given.

- `builtinRegistry`: the registry of these languages.
-/

namespace Polyglot

/-- The languages that are known from the start. -/
def Catalog.builtin : Catalog where
  languages := [
    { name := "Java"
      terseName := "java"
      extensions := ["java"]
      strategy := .kindIndexed
      versions := [
        { version := "1.8", aliases := ["8"] },
        { version := "11" },
        { version := "17" },
        { version := "21", isDefault := true, description? := some "Current LTS release" },
        { version := "22-preview"
          aliases := ["preview"]
          description? := some "Preview language features enabled" }] },
    { name := "Kotlin"
      terseName := "kotlin"
      extensions := ["kt", "kts"]
      versions := [
        { version := "1.6" },
        { version := "1.7" },
        { version := "1.9", isDefault := true }] },
    { name := "Scala"
      terseName := "scala"
      extensions := ["scala", "sc"]
      versions := [
        { version := "2.12" },
        { version := "2.13", isDefault := true },
        { version := "3", aliases := ["dotty"] }] },
    { name := "Ecmascript"
      shortName? := some "JS"
      terseName := "ecmascript"
      extensions := ["js", "mjs", "cjs"]
      versions := [{ version := "ES6", aliases := ["es2015"], isDefault := true }] },
    { name := "Go"
      terseName := "go"
      extensions := ["go"]
      versions := [{ version := "1.21" }, { version := "1.22", isDefault := true }] },
    { name := "Python"
      terseName := "python"
      extensions := ["py", "pyi"]
      versions := [
        { version := "3.11" },
        { version := "3.12", aliases := ["latest"], isDefault := true }] },
    { name := "Rust"
      terseName := "rust"
      extensions := ["rs"]
      versions := [{ version := "2018" }, { version := "2021", isDefault := true }] },
    { name := "Swift"
      terseName := "swift"
      extensions := ["swift"]
      versions := [{ version := "5.9", isDefault := true }] },
    { name := "Java Server Pages"
      shortName? := some "JSP"
      terseName := "jsp"
      extensions := ["jsp", "jspx"]
      versions := [{ version := "", isDefault := true }] },
    { name := "XML"
      terseName := "xml"
      extensions := ["xml", "xsd", "xsl"]
      versions := [{ version := "1.0", isDefault := true }, { version := "1.1" }] }]

/-- The registry of the built-in catalog, with the events of its building. -/
def builtinRegistry : Logged (Except RegistryError (Registry VersionNote)) :=
  Catalog.builtin.buildRegistry

end Polyglot
