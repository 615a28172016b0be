/-!
The methods that a path can call, their names and how many arguments they accept.
-/

namespace DocPath

inductive Method where
  | size | isEmpty | findAll | find | collect | grep | any | every | count | get | getAt
  | first | last | unique | sort | reverse | flatten | join | list | contains | keySet | values
  | containsKey | sum | min | max | toText | toInteger | toLong | toFloat | toDouble
  | toBigDecimal | toUpperCase | toLowerCase | trim | length | startsWith | endsWith | abs
  | children | attributes | text | name | depthFirst | breadthFirst
  deriving DecidableEq, Repr

namespace Method

/-- Every method with its name and its least and greatest number of arguments. -/
def table : List (Method × String × Nat × Nat) := [
  (.size, "size", 0, 0), (.isEmpty, "isEmpty", 0, 0), (.findAll, "findAll", 0, 1),
  (.find, "find", 0, 1), (.collect, "collect", 0, 1), (.grep, "grep", 0, 1),
  (.any, "any", 0, 1), (.every, "every", 0, 1), (.count, "count", 1, 1), (.get, "get", 1, 1),
  (.getAt, "getAt", 1, 1), (.first, "first", 0, 0), (.last, "last", 0, 0),
  (.unique, "unique", 0, 0), (.sort, "sort", 0, 1), (.reverse, "reverse", 0, 0),
  (.flatten, "flatten", 0, 0), (.join, "join", 0, 1), (.list, "list", 0, 0),
  (.contains, "contains", 1, 1), (.keySet, "keySet", 0, 0), (.values, "values", 0, 0),
  (.containsKey, "containsKey", 1, 1), (.sum, "sum", 0, 2), (.min, "min", 0, 1),
  (.max, "max", 0, 1), (.toText, "toString", 0, 0), (.toInteger, "toInteger", 0, 0),
  (.toLong, "toLong", 0, 0), (.toFloat, "toFloat", 0, 0), (.toDouble, "toDouble", 0, 0),
  (.toBigDecimal, "toBigDecimal", 0, 0), (.toUpperCase, "toUpperCase", 0, 0),
  (.toLowerCase, "toLowerCase", 0, 0), (.trim, "trim", 0, 0), (.length, "length", 0, 0),
  (.startsWith, "startsWith", 1, 1), (.endsWith, "endsWith", 1, 1), (.abs, "abs", 0, 0),
  (.children, "children", 0, 0), (.attributes, "attributes", 0, 0), (.text, "text", 0, 0),
  (.name, "name", 0, 0), (.depthFirst, "depthFirst", 0, 0), (.breadthFirst, "breadthFirst", 0, 0)]

def row (m : Method) : String × Nat × Nat := (table.lookup m).getD ("", 0, 0)

def label (m : Method) : String := m.row.1

def minArgs (m : Method) : Nat := m.row.2.1

def maxArgs (m : Method) : Nat := m.row.2.2

def named? (label : String) : Option Method :=
  (table.find? fun r => r.2.1 == label).map (·.1)

def accepts (m : Method) (count : Nat) : Bool := m.minArgs ≤ count && count ≤ m.maxArgs

def arityMessage (m : Method) (count : Nat) : String :=
  "method " ++ m.label ++ "() accepts " ++ toString m.minArgs ++ " to " ++ toString m.maxArgs ++
    " argument(s), but " ++ toString count ++ " were provided"

theorem named?_label (m : Method) : named? m.label = some m := by
  cases m <;> rfl

theorem label_of_named? {label : String} {m : Method} (named : named? label = some m) :
    m.label = label := by
  simp only [named?, Option.map_eq_some_iff] at named
  obtain ⟨r, found, rfl⟩ := named
  have spelled : ∀ r ∈ table, r.1.label = r.2.1 := by decide +kernel
  rw [spelled r (List.mem_of_find?_eq_some found)]
  simpa using List.find?_some found

end Method
end DocPath
