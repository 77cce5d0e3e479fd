/-!
# Joining URLs

A base and a path are joined by exactly one slash, however many stand at the junction.
-/

namespace QueryCanvas

/-- The characters without the slashes at their end. -/
def trimEndSlashes (cs : List Char) : List Char :=
  (cs.reverse.dropWhile (· == '/')).reverse

/-- The characters without the slashes at their start. -/
def trimStartSlashes (cs : List Char) : List Char :=
  cs.dropWhile (· == '/')

/-- The base and the path with one slash between them. -/
def joinUrl (base path : String) : String :=
  String.ofList (trimEndSlashes base.toList ++ '/' :: trimStartSlashes path.toList)

end QueryCanvas
