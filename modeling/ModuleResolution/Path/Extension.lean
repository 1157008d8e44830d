import ModuleResolution.Path.Basic

/-! # Extensions

The extension of a file name starts at its last dot, unless only dots precede that dot:
`.bashrc` and `..ts` have none, `a.` has the extension `.`. Some extensions have more than one
dotted part and count as a whole, such as `.d.ts`; they need a non-empty stem too.

The extension is read from the normalized path, but `clearExtension` cuts the text it is given.
-/

set_option autoImplicit false

namespace ModuleResolution.Path

/-- Extensions of more than one dotted part, in the order they are tried. -/
def compoundExtensions : List String := [".d.ts", ".d.mts", ".d.cts"]

/-- The extension from the last dot of a name that has another character before it than dots. -/
def lastExtension (name : String) : String :=
  let reversed := name.toList.reverse
  match reversed.dropWhile (· != '.') with
  | [] => ""
  | _ :: before =>
    if before.any (· != '.') then
      String.ofList ('.' :: (reversed.takeWhile (· != '.')).reverse)
    else ""

/-- The name ends in `compound` and has something before it. -/
def carries (name compound : String) : Bool :=
  compound.toList.isSuffixOf name.toList && decide (compound.length < name.length)

/-- The extension of a file name, given the compound extensions. -/
def extensionOfName (compounds : List String) (name : String) : String :=
  (compounds.find? (carries name)).getD (lastExtension name)

/-- The extension of a path with its leading dot, given the compound extensions. -/
def extensionWith (compounds : List String) (text : String) : String :=
  extensionOfName compounds (fileName text)

/-- The extension of a path with its leading dot; empty when it has none. -/
def extension (text : String) : String := extensionWith compoundExtensions text

/-- The path text without as many characters at its end as its extension has. -/
def clearExtensionWith (compounds : List String) (text : String) : String :=
  String.ofList (text.toList.take (text.length - (extensionWith compounds text).length))

def clearExtension (text : String) : String := clearExtensionWith compoundExtensions text

/-- An extension with a dot in front, unless it is empty or has one. -/
def dotted (extension : String) : String :=
  if extension.isEmpty || extension.toList.head? == some '.' then extension
  else "." ++ extension

def setExtension (text extension : String) : String :=
  clearExtension text ++ dotted extension

end ModuleResolution.Path
