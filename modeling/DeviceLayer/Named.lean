/-!
# Named values

Enumerations that answers spell out by name. The list of all values makes a name readable again.
-/

namespace DeviceLayer

/-- A type whose values are listed and carry a name each. -/
class Named (α : Type) where
  all : List α
  name : α → String

namespace Named

/-- The listed value with this name. -/
def ofName? {α : Type} [Named α] (s : String) : Option α :=
  (all (α := α)).find? fun a => name a == s

end Named

end DeviceLayer
