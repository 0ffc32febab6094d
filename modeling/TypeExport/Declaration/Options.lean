/-! # Rendering Options

    What stands before the declarations, what they are wrapped in, and how enumerations are
    written. -/

namespace TypeExport

/-- The banner used when no preamble is given. -/
def defaultPreamble : String := "// generated by typebridge v0.2.0\n// DO NOT MODIFY\n"

structure RenderOptions where
  /-- The exported namespace around all declarations. -/
  namespaceName : Option String := none
  /-- Text before the declarations. -/
  preamble : String := defaultPreamble
  /-- Write an enumeration as the union of its values. -/
  enumsAsSumTypes : Bool := false
  deriving Repr, DecidableEq, Inhabited

namespace RenderOptions

def withNamespace (o : RenderOptions) (name : String) : RenderOptions :=
  { o with namespaceName := some name }

def withPreamble (o : RenderOptions) (text : String) : RenderOptions := { o with preamble := text }

def appendPreamble (o : RenderOptions) (text : String) : RenderOptions :=
  { o with preamble := o.preamble ++ text }

def withSumTypes (o : RenderOptions) (on : Bool) : RenderOptions := { o with enumsAsSumTypes := on }

end RenderOptions

end TypeExport
