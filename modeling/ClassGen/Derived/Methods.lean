/-
# Derived methods

The methods `toString`, `equals` and `hashCode` hand their work to builders that inspect the
fields of the receiver.  Attaching them to a class twice gives it two of each.
-/
import ClassGen.Derived.Style

namespace ClassGen

/-- The class of that name among the builders. -/
def builderClass (name : String) : ClassName := ⟨Style.builderPackage, name⟩

namespace Method

/-- A public method that overrides an inherited one and returns a value. -/
def overriding (returnType : TypeRef) (name : String) (params : List Param) (value : Expr) :
    Method :=
  ⟨.public, returnType, name, params, [ClassName.overrideMarker], [.returns value]⟩

/-- The method `toString()`, in a style. -/
def toStringIn (style : Style) : Method :=
  overriding (.ofClass ClassName.string) "toString" []
    (.invoke (builderClass "ToStringBuilder") "reflectionToString" [.this, style.expr])

/-- The method `equals(Object)`. -/
def equals : Method :=
  overriding (.primitive .boolean) "equals" [⟨.ofClass ClassName.object, "that"⟩]
    (.invoke (builderClass "EqualsBuilder") "reflectionEquals" [.this, .var "that"])

/-- The method `hashCode()`. -/
def hashCode : Method :=
  overriding (.primitive .int) "hashCode" []
    (.invoke (builderClass "HashCodeBuilder") "reflectionHashCode" [.this])

/-- The derived methods, in order. -/
def derived (style : Style) : List Method := [toStringIn style, equals, hashCode]

end Method

/-- The class with the derived methods after its own. -/
def ClassDef.attachDerived (style : Style) (c : ClassDef) : ClassDef :=
  { c with methods := c.methods ++ Method.derived style }

end ClassGen
