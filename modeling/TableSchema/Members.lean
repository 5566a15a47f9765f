/-!
# Members by name

Tables keep their members in a list, in the order in which their names were first written.
-/

namespace TableSchema

/-- Writes the member of a name: one that is there keeps its place, a new one goes behind all
others. -/
def overwrite {α : Type} (name : String) (a : α) (ms : List (String × α)) : List (String × α) :=
  if ms.any (·.1 = name) then ms.map fun m => if m.1 = name then (name, a) else m
  else ms ++ [(name, a)]

end TableSchema
