import CompileDriver.Toolchain.Settings

/-!
# The calls on a compiler session

Every request walks a session through a sequence of calls.  This module names
the calls together with their arguments, so that a request can be described by
the calls that it makes.
-/

namespace CompileDriver

/-- A call that a request makes on its session. -/
inductive SessionCall
  | create (optimisation : Optimisation)
  | plugin (name : String)
  | parse (input : Path)
  | compile
  | run (arguments libs : List String)
  | link (output : Path) (options : LinkOptions)
  deriving Repr, DecidableEq

namespace SessionCall

/-- Texts separated by single spaces. -/
def spaced (texts : List String) : String :=
  String.intercalate " " texts

/-- A call in one line. -/
def describe : SessionCall → String
  | .create optimisation => "create " ++ optimisation.name
  | .plugin name => "plugin " ++ name
  | .parse input => "parse " ++ input.display
  | .compile => "compile"
  | .run arguments libs => "run " ++ spaced arguments ++ " | " ++ spaced libs
  | .link output options =>
      "link " ++ output.display ++ " " ++ options.argv0.display ++ " shared="
        ++ (if options.sharedLib then "true" else "false") ++ " | " ++ spaced options.libs
        ++ " | " ++ options.linkerFlags

end SessionCall

end CompileDriver
