import Bindery.Text.Lines
/-!
What all generated headers share: the line that says they are generated, the guard against being
included twice, the frame that gives declarations C linkage, and the declaration of the handle type.
-/

namespace Bindery.Header

/-- The first line of every generated file. -/
def banner : String := "/* Generated by dombind. Do not edit. */"

/-- A character of a guard: letters in upper case and digits stay, all else becomes `_`. -/
def guardChar (c : Char) : Char :=
  if 'a' ≤ c && c ≤ 'z' then Char.ofNat (c.toNat - 32)
  else if ('A' ≤ c && c ≤ 'Z') || ('0' ≤ c && c ≤ '9') then c
  else '_'

/-- The macro that guards the header in the given file. -/
def guard (fileName : String) : String :=
  "DOMBIND_" ++ String.ofList (fileName.toList.map guardChar)

/-- The lines that open a guarded header. -/
def openGuard (fileName : String) : List String :=
  ["#ifndef " ++ guard fileName, "#define " ++ guard fileName]

/-- The line that closes a guarded header. -/
def closeGuard (fileName : String) : String := "#endif " ++ "/* " ++ guard fileName ++ " */"

/-- The lines after which declarations have C linkage. -/
def openLinkage : List String := ["#ifdef __cplusplus", "extern \"C\" \x7b", "#endif"]

/-- The lines up to which declarations have C linkage. -/
def closeLinkage : List String := ["#ifdef __cplusplus", "\x7d", "#endif"]

/-- The declaration of the handle type, which several headers may repeat. -/
def handleDeclaration : List String :=
  ["#ifndef DOMBIND_HANDLE_DECLARED", "#define DOMBIND_HANDLE_DECLARED",
    "typedef struct DomBind_Handle DomBind_Handle;", "#endif"]

end Bindery.Header
